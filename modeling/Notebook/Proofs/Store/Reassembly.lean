import Notebook.Proofs.Store.Contents

/-! # Notes of some records

The notes made of any records are made path by path, each of the rows of its own path and of no others.
-/

namespace Notebook.Store

variable {s : Store} {path : Text}

/-! ## Rows that can be read -/

/-- All rows of records and tags can be read, where those of tags whose record is gone need only have an id. -/
structure IsReadable (s : Store) : Prop where
  path : ∀ r ∈ s.records, ∃ path, r.path = .text path
  text : ∀ r ∈ s.records, ∃ text, r.text.asText? = .ok text
  id : ∀ row ∈ s.tags, ∃ id, row.id = .integer id
  name : ∀ r ∈ s.records, ∀ row ∈ s.tagsOf r.id, ∃ name, row.name.asText? = .ok name

theorem addRecordTo_succeeds {r : RecordRow} (hpath : ∃ path, r.path = .text path)
    (htext : ∃ text, r.text.asText? = .ok text) (notes : Notes) : ∃ more, addRecordTo notes r = .ok more := by
  obtain ⟨path, hpath⟩ := hpath
  obtain ⟨text, htext⟩ := htext
  unfold addRecordTo
  rw [hpath, htext]
  exact ⟨_, rfl⟩

theorem addTagsTo_succeeds {r : RecordRow} (hpath : ∃ path, r.path = .text path)
    (hname : ∀ row ∈ s.tagsOf r.id, ∃ name, row.name.asText? = .ok name) (notes : Notes) :
    ∃ more, addTagsTo s notes r = .ok more := by
  obtain ⟨path, hpath⟩ := hpath
  unfold addTagsTo
  rw [hpath]
  refine foldlM_succeeds (fun notes row hrow => ?_) notes
  obtain ⟨name, hname⟩ := hname row hrow
  unfold addTagRowTo
  rw [hname]
  cases name with
  | none => exact ⟨_, rfl⟩
  | some name =>
    cases notes.get? path with
    | none => exact ⟨notes, by simp [bind, Except.bind, pure, Except.pure]⟩
    | some n =>
      cases row.value.value? <;> simp [bind, Except.bind, pure, Except.pure]

theorem notesOf_reads (hpath : ∀ r ∈ s.records, ∃ path, r.path = .text path)
    (htext : ∀ r ∈ s.records, ∃ text, r.text.asText? = .ok text)
    (hname : ∀ r ∈ s.records, ∀ row ∈ s.tagsOf r.id, ∃ name, row.name.asText? = .ok name) (ids : List Int) :
    ∃ notes, s.notesOf ids = .ok notes := by
  have hrows {r : RecordRow} (hr : r ∈ s.records.filter fun r => r.id ∈ ids) : r ∈ s.records :=
    (List.mem_filter.1 hr).1
  obtain ⟨notes, hnotes⟩ := foldlM_succeeds
    (fun notes r hr => addRecordTo_succeeds (hpath r (hrows hr)) (htext r (hrows hr)) notes) Notes.empty
  obtain ⟨more, hmore⟩ := foldlM_succeeds
    (fun notes r hr => addTagsTo_succeeds (hpath r (hrows hr)) (hname r (hrows hr)) notes) notes
  exact ⟨more, bind_eq_ok.2 ⟨notes, hnotes, hmore⟩⟩

theorem notesOf_succeeds (h : s.IsReadable) (ids : List Int) : ∃ notes, s.notesOf ids = .ok notes :=
  notesOf_reads h.path h.text h.name ids

/-! ## Path by path -/

def recordsOf (s : Store) (ids : List Int) (path : Text) : List RecordRow :=
  (s.recordsAt path).filter fun r => r.id ∈ ids

def assembledFrom (s : Store) (path : Text) (rows : List RecordRow) : Except Failure Note := do
  let n ← rows.foldlM withRecordText (Note.blank path)
  rows.foldlM (fun n r => (s.tagsOf r.id).foldlM withTagRow n) n

theorem assembled_eq (s : Store) (path : Text) : s.assembled path = s.assembledFrom path (s.recordsAt path) := rfl

def withTextAt (path : Text) (found : Option Note) (r : RecordRow) : Except Failure (Option Note) :=
  (withRecordText (found.getD (Note.blank path)) r).map some

def withTagAt (found : Option Note) (row : TagRow) : Except Failure (Option Note) :=
  match found with
  | none => .ok none
  | some n => (withTagRow n row).map some

theorem get?_addRecordTo {notes more : Notes} {r : RecordRow} (h : addRecordTo notes r = .ok more) :
    if r.path = .text path then withTextAt path (notes.get? path) r = .ok (more.get? path)
    else more.get? path = notes.get? path := by
  obtain ⟨p, hp, h⟩ := bind_eq_ok.1 h
  obtain ⟨text, htext, h⟩ := bind_eq_ok.1 h
  obtain rfl := Except.ok.inj h
  have hrpath : r.path = .text p := by
    cases hr : r.path <;> simp_all [Cell.asText]
  by_cases hpath : p = path
  · subst hpath
    rw [if_pos hrpath, withTextAt, withRecordText, htext, Notes.get?_put, if_pos rfl]
    rfl
  · have hne : r.path ≠ .text path := by simpa [hrpath] using hpath
    rw [if_neg hne, Notes.get?_put, if_neg (Ne.symm hpath)]

theorem get?_addTagRowTo {notes more : Notes} {row : TagRow} (h : addTagRowTo path notes row = .ok more) :
    withTagAt (notes.get? path) row = .ok (more.get? path) := by
  obtain ⟨name, hname, h⟩ := bind_eq_ok.1 h
  cases hget : notes.get? path with
  | none =>
    have hsame : more = notes := by
      cases name with
      | none => exact (Except.ok.inj h).symm
      | some name =>
        simp only [hget] at h
        exact (Except.ok.inj h).symm
    rw [hsame, hget]
    rfl
  | some n =>
    rw [withTagAt, withTagRow, hname]
    cases name with
    | none =>
      obtain rfl := Except.ok.inj h
      rw [hget]
      rfl
    | some name =>
      cases hvalue : row.value.value? with
      | none | some value =>
        simp only [hget, hvalue] at h
        obtain rfl := Except.ok.inj h
        simp [bind, Except.bind, pure, Except.pure, Except.map]

theorem get?_addTagRowTo_of_ne {q : Text} (hq : q ≠ path) {notes more : Notes} {row : TagRow}
    (h : addTagRowTo path notes row = .ok more) : more.get? q = notes.get? q := by
  obtain ⟨name, -, h⟩ := bind_eq_ok.1 h
  cases name with
  | none => rw [← Except.ok.inj h]
  | some name =>
    cases hget : notes.get? path with
    | none =>
      simp only [hget] at h
      rw [← Except.ok.inj h]
    | some n =>
      cases hvalue : row.value.value? with
      | none | some value =>
        simp only [hget, hvalue] at h
        rw [← Except.ok.inj h, Notes.get?_put, if_neg hq]

theorem get?_addTagsTo {notes more : Notes} {r : RecordRow} (h : addTagsTo s notes r = .ok more) :
    if r.path = .text path then (s.tagsOf r.id).foldlM withTagAt (notes.get? path) = .ok (more.get? path)
    else more.get? path = notes.get? path := by
  obtain ⟨p, hp, h⟩ := bind_eq_ok.1 h
  have hrpath : r.path = .text p := by
    cases hr : r.path <;> simp_all [Cell.asText]
  by_cases hpath : p = path
  · subst hpath
    have hfold := foldlM_view (Notes.get? · p) (fun _ => true)
      (fun notes row _ more h => get?_addTagRowTo h) h
    rw [List.filter_true] at hfold
    rw [if_pos hrpath]
    exact hfold
  · have hne : r.path ≠ .text path := by simpa [hrpath] using hpath
    rw [if_neg hne]
    refine foldlM_preserves (fun more => more.get? path = notes.get? path) ?_ rfl h
    intro a row _ b ha hb
    rw [get?_addTagRowTo_of_ne (Ne.symm hpath) hb, ha]

theorem foldlM_withTextAt {rows : List RecordRow} (hne : rows ≠ []) :
    rows.foldlM (withTextAt path) none = (rows.foldlM withRecordText (Note.blank path)).map some := by
  obtain ⟨r, rest, rfl⟩ := List.exists_cons_of_ne_nil hne
  -- The first record is added to a blank note.
  have hfirst : (r :: rest).foldlM (withTextAt path) none = (r :: rest).foldlM (withTextAt path) (some (Note.blank path)) :=
    rfl
  rw [hfirst]
  exact foldlM_image some (fun _ _ _ => rfl) _

theorem foldlM_withTagAt (rows : List RecordRow) (n : Note) :
    rows.foldlM (fun found r => (s.tagsOf r.id).foldlM withTagAt found) (some n)
      = (rows.foldlM (fun n r => (s.tagsOf r.id).foldlM withTagRow n) n).map some := by
  have hrecord (n : Note) (r : RecordRow) :
      (s.tagsOf r.id).foldlM withTagAt (some n) = ((s.tagsOf r.id).foldlM withTagRow n).map some :=
    foldlM_image some (fun _ _ _ => rfl) n
  exact foldlM_image some (fun n r _ => hrecord n r) n

theorem get?_notesOf {ids : List Int} {notes : Notes} (h : s.notesOf ids = .ok notes) (path : Text) :
    (if s.recordsOf ids path = [] then .ok none else (s.assembledFrom path (s.recordsOf ids path)).map some)
      = Except.ok (notes.get? path) := by
  obtain ⟨half, htexts, htags⟩ := bind_eq_ok.1 h
  -- Seen at one path, both folds go over the records of that path only.
  have hrows : (s.records.filter fun r => r.id ∈ ids).filter (fun r => r.path = .text path) = s.recordsOf ids path := by
    rw [recordsOf, recordsAt, List.filter_filter, List.filter_filter]
    exact List.filter_congr fun r _ => Bool.and_comm ..
  have htexts : (s.recordsOf ids path).foldlM (withTextAt path) none = .ok (half.get? path) := by
    rw [← hrows]
    exact foldlM_view (Notes.get? · path) _ (fun _ _ _ _ h => by simpa using get?_addRecordTo h) htexts
  have htags : (s.recordsOf ids path).foldlM (fun found r => (s.tagsOf r.id).foldlM withTagAt found) (half.get? path)
      = .ok (notes.get? path) := by
    rw [← hrows]
    exact foldlM_view (Notes.get? · path) _ (fun _ _ _ _ h => by simpa using get?_addTagsTo h) htags
  by_cases hnil : s.recordsOf ids path = []
  · rw [hnil] at htexts htags
    rw [if_pos hnil, ← htags]
    exact htexts
  · rw [foldlM_withTextAt hnil] at htexts
    obtain ⟨n, hn, hsome⟩ := map_eq_ok.1 htexts
    rw [← hsome, foldlM_withTagAt] at htags
    rw [if_neg hnil, ← htags, assembledFrom, hn]
    rfl

end Notebook.Store
