import Mathlib.Data.List.Pairwise
import Notebook.Proofs.Merging
import Notebook.Proofs.Notes
import Notebook.Store.Assembly

/-! # What is stored at a path

The rows of one path are read apart from all others, so what is stored at a path changes only with these
rows.
-/

namespace Notebook

/-! ## Notes that are read -/

theorem Double.ofInt_ne_nan (n : Int) : Double.ofInt n ≠ .nan := by
  unfold Double.ofInt Double.ofRatio Double.ofRank
  split <;> simp

theorem Cell.value?_ne_nan {c : Cell} {value : FieldValue} (h : c.value? = some value) :
    value ≠ .number .nan := by
  rintro rfl
  cases c with
  | integer n => simp [Cell.value?, Double.ofInt_ne_nan] at h
  | real x =>
    by_cases hx : x = .nan
    · simp [Cell.value?, hx] at h
    · simp [Cell.value?, hx] at h
  | null | text _ | blob _ => simp [Cell.value?] at h

namespace Note

structure IsKept (path : Text) (n : Note) : Prop where
  path : n.path = path
  directive : n.directive = .insert
  noNaN : n.HasNoNaN

theorem isKept_blank (path : Text) : (blank path).IsKept path := ⟨rfl, rfl, by simp [HasNoNaN, blank]⟩

theorem IsKept.addField {path : Text} {n : Note} (hn : n.IsKept path) {f : Field}
    (hf : f.2 ≠ .number .nan) : (n.addField f).IsKept path where
  path := by unfold Note.addField; split <;> exact hn.path
  directive := by unfold Note.addField; split <;> exact hn.directive
  noNaN := hn.noNaN.addField hf

end Note

namespace Store

/-! ## The rows of a path -/

def recordsAt (s : Store) (path : Text) : List RecordRow := s.records.filter fun r => r.path = .text path

def tagsOf (s : Store) (id : Int) : List TagRow := s.tags.filter (TagRow.isOf [id])

theorem isOf_iff {ids : List Int} {row : TagRow} :
    TagRow.isOf ids row = true ↔ ∃ id ∈ ids, row.id = .integer id := by
  unfold TagRow.isOf
  split <;> simp_all

theorem idsAt_eq_nil {s : Store} {path : Text} : s.idsAt path = [] ↔ s.recordsAt path = [] := by
  simp [idsAt, recordsAt]

theorem eq_of_id_eq {s : Store} {r r' : RecordRow} (h : r ∈ s.records) (h' : r' ∈ s.records)
    (hid : r.id = r'.id) : r = r' := by
  by_contra hne
  have distinct : s.records.Pairwise fun a b => a.id ≠ b.id := s.rising.imp fun hlt => by omega
  have : Std.Symm fun a b : RecordRow => a.id ≠ b.id := ⟨fun _ _ hne => hne.symm⟩
  exact distinct.forall h h' hne hid

theorem id_mem_idsAt {s : Store} {r : RecordRow} (h : r ∈ s.records) {path : Text} :
    r.id ∈ s.idsAt path ↔ r.path = .text path := by
  constructor
  · intro hid
    obtain ⟨r', hr', hid⟩ := List.mem_map.1 hid
    obtain ⟨hmem, hpath⟩ := List.mem_filter.1 hr'
    rw [eq_of_id_eq h hmem hid.symm]
    simpa using hpath
  · intro hpath
    exact List.mem_map.2 ⟨r, List.mem_filter.2 ⟨h, by simpa using hpath⟩, rfl⟩

theorem recordsAt_eq (s : Store) (path : Text) :
    (s.records.filter fun r => r.id ∈ s.idsAt path) = s.recordsAt path :=
  List.filter_congr fun r h => by simp [id_mem_idsAt h]

/-! ## Reading one path -/

def withRecordText (n : Note) (r : RecordRow) : Except Failure Note := do
  return addText n ((← r.text.asText?).getD [])

def withTagRow (n : Note) (row : TagRow) : Except Failure Note := do
  match ← row.name.asText? with
  | none => return n
  | some name =>
    match row.value.value? with
    | none => return { n with tags := Note.addTo n.tags name }
    | some value => return n.addField (name, value)

/-- The note made of the rows of a path. -/
def assembled (s : Store) (path : Text) : Except Failure Note := do
  let n ← (s.recordsAt path).foldlM withRecordText (Note.blank path)
  (s.recordsAt path).foldlM (fun n r => (s.tagsOf r.id).foldlM withTagRow n) n

theorem withRecordText_isKept {path : Text} {n m : Note} {r : RecordRow} (hn : n.IsKept path)
    (h : withRecordText n r = .ok m) : m.IsKept path := by
  obtain ⟨t, -, h⟩ := bind_eq_ok.1 h
  obtain rfl := Except.ok.inj h
  unfold addText
  split <;> exact ⟨hn.path, hn.directive, hn.noNaN⟩

theorem withTagRow_isKept {path : Text} {n m : Note} {row : TagRow} (hn : n.IsKept path)
    (h : withTagRow n row = .ok m) : m.IsKept path := by
  obtain ⟨name, -, h⟩ := bind_eq_ok.1 h
  cases name with
  | none => exact Except.ok.inj h ▸ hn
  | some name =>
    cases hvalue : row.value.value? with
    | none =>
      simp only [hvalue] at h
      exact Except.ok.inj h ▸ ⟨hn.path, hn.directive, hn.noNaN⟩
    | some value =>
      simp only [hvalue] at h
      exact Except.ok.inj h ▸ hn.addField (Cell.value?_ne_nan hvalue)

theorem assembled_isKept {s : Store} {path : Text} {n : Note} (h : s.assembled path = .ok n) :
    n.IsKept path := by
  obtain ⟨m, htexts, htags⟩ := bind_eq_ok.1 h
  have hm : m.IsKept path :=
    foldlM_preserves (Note.IsKept path) (fun _ _ _ _ hk hr => withRecordText_isKept hk hr)
      (Note.isKept_blank path) htexts
  refine foldlM_preserves (Note.IsKept path) (fun _ _ _ _ hk hrows => ?_) hm htags
  exact foldlM_preserves (Note.IsKept path) (fun _ _ _ _ hk hr => withTagRow_isKept hk hr) hk hrows

theorem addRecordTo_single {r : RecordRow} {path : Text} (h : r.path = .text path) (n : Note) :
    addRecordTo (Notes.single path n) r = (withRecordText n r).map (Notes.single path) := by
  unfold addRecordTo withRecordText
  rw [h]
  cases r.text.asText? <;> simp [Cell.asText, bind, Except.bind, pure, Except.pure, Except.map]

theorem addRecordTo_empty {r : RecordRow} {path : Text} (h : r.path = .text path) :
    addRecordTo .empty r = (withRecordText (Note.blank path) r).map (Notes.single path) := by
  unfold addRecordTo withRecordText
  rw [h]
  cases r.text.asText? <;>
    simp [Cell.asText, bind, Except.bind, pure, Except.pure, Except.map, Notes.single]

theorem addTagRowTo_single (path : Text) (n : Note) (row : TagRow) :
    addTagRowTo path (Notes.single path n) row = (withTagRow n row).map (Notes.single path) := by
  unfold addTagRowTo withTagRow
  cases row.name.asText? with
  | error e => rfl
  | ok name =>
    cases name with
    | none => rfl
    | some name =>
      cases row.value.value? <;> simp [bind, Except.bind, pure, Except.pure, Except.map]

theorem addTagsTo_single (s : Store) {r : RecordRow} {path : Text} (h : r.path = .text path) (n : Note) :
    addTagsTo s (Notes.single path n) r = ((s.tagsOf r.id).foldlM withTagRow n).map (Notes.single path) := by
  unfold addTagsTo
  rw [h]
  exact foldlM_image (Notes.single path) (fun n row _ => addTagRowTo_single path n row) n

theorem notesOf_idsAt (s : Store) (path : Text) :
    s.notesOf (s.idsAt path) =
      if s.recordsAt path = [] then .ok .empty else (s.assembled path).map (Notes.single path) := by
  have hpath : ∀ r ∈ s.recordsAt path, r.path = .text path := fun r hr => by
    simpa using (List.mem_filter.1 hr).2
  unfold notesOf assembled
  simp only [recordsAt_eq]
  have tags (n : Note) : (s.recordsAt path).foldlM (addTagsTo s) (Notes.single path n)
      = ((s.recordsAt path).foldlM (fun n r => (s.tagsOf r.id).foldlM withTagRow n) n).map (Notes.single path) :=
    foldlM_image (Notes.single path) (fun n r hr => addTagsTo_single s (hpath r hr) n) n
  generalize s.recordsAt path = rows at *
  cases rows with
  | nil => rfl
  | cons r rest =>
    have texts : (r :: rest).foldlM addRecordTo .empty
        = ((r :: rest).foldlM withRecordText (Note.blank path)).map (Notes.single path) := by
      rw [List.foldlM_cons, List.foldlM_cons, addRecordTo_empty (hpath r (by simp))]
      cases withRecordText (Note.blank path) r with
      | error e => rfl
      | ok n =>
        have single (n : Note) : ∀ r ∈ rest,
            addRecordTo (Notes.single path n) r = (withRecordText n r).map (Notes.single path) :=
          fun r hr => addRecordTo_single (hpath r (by simp [hr])) n
        exact foldlM_image (Notes.single path) single n
    rw [texts, if_neg (by simp)]
    cases (r :: rest).foldlM withRecordText (Note.blank path) with
    | error e => rfl
    | ok n => exact tags n

/-! ## Contents -/

/-- What is stored at a path: a note, or nothing, or rows that cannot be read. -/
def contents (s : Store) (path : Text) : Except Failure (Option Note) := s.noteAt? .free path

theorem contents_eq (s : Store) (path : Text) :
    s.contents path =
      if s.recordsAt path = [] then .ok none else (s.assembled path).map some := by
  have h : s.contents path = (s.notesOf (s.idsAt path)).map (·.get? path) := by
    simp [contents, noteAt?, notesAt, idsAtAll, Hold.reading, Hold.canRead, bind, Except.bind, pure,
      Except.pure]
  rw [h, notesOf_idsAt]
  split
  · rfl
  · cases s.assembled path <;> simp [Except.map]

theorem contents_eq_none {s : Store} {path : Text} : s.contents path = .ok none ↔ s.idsAt path = [] := by
  rw [contents_eq, idsAt_eq_nil]
  split
  · simp [*]
  · cases s.assembled path <;> simp [Except.map, *]

theorem isKept_of_contents {s : Store} {path : Text} {n : Note} (h : s.contents path = .ok (some n)) :
    n.IsKept path := by
  rw [contents_eq] at h
  split at h
  · simp at h
  · obtain ⟨m, hm, hsome⟩ := map_eq_ok.1 h
    exact Option.some.inj hsome ▸ assembled_isKept hm

/-- The rows of a path are the same in two stores. -/
structure AgreeAt (path : Text) (s t : Store) : Prop where
  records : t.recordsAt path = s.recordsAt path
  tags : ∀ r ∈ s.recordsAt path, t.tagsOf r.id = s.tagsOf r.id

theorem AgreeAt.contents_eq {path : Text} {s t : Store} (h : AgreeAt path s t) :
    t.contents path = s.contents path := by
  have tags (n : Note) : (s.recordsAt path).foldlM (fun n r => (t.tagsOf r.id).foldlM withTagRow n) n
      = (s.recordsAt path).foldlM (fun n r => (s.tagsOf r.id).foldlM withTagRow n) n :=
    foldlM_congr (fun n r hr => by rw [h.tags r hr]) n
  simp only [Store.contents_eq, assembled, h.records, tags]

end Store

end Notebook
