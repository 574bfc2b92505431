import Notebook.Proofs.PathOrder
import Notebook.Proofs.Store.Reassembly
import Notebook.Proofs.Text.Lines

/-! # Notes of joined rows

What the notes of some records are, told from their rows all at once: the texts of a path are joined and only then
lose their blank lines in front, and of all tags and fields the first of each is kept.
-/

namespace Notebook

/-! ## Rows -/

def RecordRow.lines (r : RecordRow) : List Text :=
  match r.text with
  | .text t => t.lines
  | _ => []

def TagRow.tag? (row : TagRow) : Option Text :=
  match row.name, row.value.value? with
  | .text name, none => some name
  | _, _ => none

def TagRow.field? (row : TagRow) : Option Field :=
  match row.name, row.value.value? with
  | .text name, some value => some (name, value)
  | _, _ => none

/-- Paths are texts, texts may be missing but have no carriage return, and names may be missing. -/
structure Store.HasPlainRows (s : Store) : Prop where
  path : ∀ r ∈ s.records, ∃ path, r.path = .text path
  text : ∀ r ∈ s.records, r.text = .null ∨ ∃ t, r.text = .text t ∧ '\r' ∉ t
  name : ∀ row ∈ s.tags, row.name = .null ∨ ∃ name, row.name = .text name

def Store.noteFrom (s : Store) (path : Text) (rows : List RecordRow) : Note :=
  let tagRows := rows.flatMap fun r => s.tagsOf r.id
  { path
    lines := ([[]].intercalate (rows.map (·.lines))).dropWhile Text.isBlank
    tags := (tagRows.filterMap TagRow.tag?).eraseDups
    fields := (tagRows.filterMap TagRow.field?).eraseDupsBy Field.same
    directive := .insert }

def Note.HasPlainLines (n : Note) : Prop := ∀ line ∈ n.lines, '\n' ∉ line ∧ '\r' ∉ line

namespace Store

variable {s : Store} {path : Text}

/-! ## Texts -/

theorem dropWhile_dropWhile_append {α : Type} (p : α → Bool) (l m : List α) :
    (l.dropWhile p ++ m).dropWhile p = (l ++ m).dropWhile p := by
  rw [List.dropWhile_append, List.dropWhile_append, List.dropWhile_idempotent]

theorem HasPlainRows.lines (hs : s.HasPlainRows) {r : RecordRow} (hr : r ∈ s.records) :
    ∀ line ∈ r.lines, '\n' ∉ line ∧ '\r' ∉ line := by
  intro line hline
  unfold RecordRow.lines at hline
  rcases hs.text r hr with htext | ⟨t, htext, hreturn⟩
  · rw [htext] at hline
    cases hline
  · rw [htext] at hline
    exact ⟨Text.newline_not_mem_of_mem_lines hline, fun hmem => hreturn (Text.mem_of_mem_lines hline hmem)⟩

/-- A further text is set off by an empty line. That it may be the first makes no difference, for an empty line in
front is dropped. -/
theorem addText_eq {n : Note} (hn : n.HasPlainLines) (t : Text) :
    addText n t = { n with lines := (n.lines ++ [] :: t.lines).dropWhile Text.isBlank } := by
  unfold addText Note.setText Note.linesOf
  split
  · rename_i hnil
    rw [hnil]
    rfl
  · have hlines : Text.lines (n.text ++ '\n' :: t) = n.lines ++ Text.lines ('\n' :: t) :=
      Text.lines_ofLines_plain hn _
    rw [hlines, Text.lines]

theorem withRecordText_eq (hs : s.HasPlainRows) {r : RecordRow} (hr : r ∈ s.records) {n : Note}
    (hn : n.HasPlainLines) :
    withRecordText n r = .ok { n with lines := (n.lines ++ [] :: r.lines).dropWhile Text.isBlank } := by
  unfold withRecordText RecordRow.lines
  rcases hs.text r hr with htext | ⟨t, htext, -⟩
  · rw [htext]
    exact congrArg Except.ok (addText_eq hn [])
  · rw [htext]
    exact congrArg Except.ok (addText_eq hn t)

theorem foldlM_withRecordText (hs : s.HasPlainRows) {rows : List RecordRow} (hrows : rows ⊆ s.records) {n : Note}
    (hn : n.HasPlainLines) (hstart : n.lines.dropWhile Text.isBlank = n.lines) :
    rows.foldlM withRecordText n =
      .ok { n with lines := (n.lines ++ rows.flatMap fun r => [] :: r.lines).dropWhile Text.isBlank } := by
  induction rows generalizing n with
  | nil =>
    rw [List.flatMap_nil, List.append_nil, hstart]
    rfl
  | cons r rest ih =>
    obtain ⟨hr, hrest⟩ := List.cons_subset.1 hrows
    have hplain : { n with lines := (n.lines ++ [] :: r.lines).dropWhile Text.isBlank }.HasPlainLines := by
      intro line hline
      rcases List.mem_append.1 ((List.dropWhile_suffix _).subset hline) with hline | hline
      · exact hn line hline
      · rcases List.mem_cons.1 hline with rfl | hline
        · exact ⟨List.not_mem_nil, List.not_mem_nil⟩
        · exact hs.lines hr line hline
    rw [List.foldlM_cons, withRecordText_eq hs hr hn]
    change rest.foldlM withRecordText _ = _
    -- Blank lines that were dropped before are dropped again with those of the rest, so one drop at the end will do.
    rw [ih hrest hplain (List.dropWhile_idempotent _ _)]
    dsimp only
    rw [dropWhile_dropWhile_append, List.append_assoc, List.flatMap_cons]

/-- Texts that each have an empty line before them are texts with an empty line between them, after one more. -/
theorem flatMap_lines_eq {rows : List RecordRow} (hne : rows ≠ []) :
    (rows.flatMap fun r => [] :: r.lines) = [] :: [[]].intercalate (rows.map (·.lines)) := by
  induction rows with
  | nil => exact absurd rfl hne
  | cons r rest ih =>
    by_cases hrest : rest = []
    · simp [hrest]
    · rw [List.flatMap_cons, ih hrest, List.map_cons, List.intercalate_cons_of_ne_nil (by simpa using hrest)]
      simp

/-! ## Tags and fields -/

theorem withTagRow_eq {row : TagRow} (hname : row.name = .null ∨ ∃ name, row.name = .text name) (n : Note) :
    withTagRow n row = .ok (row.field?.toList.foldl Note.addField
      { n with tags := row.tag?.toList.foldl Note.addTo n.tags }) := by
  unfold withTagRow TagRow.tag? TagRow.field?
  rcases hname with hname | ⟨name, hname⟩
  · rw [hname]
    rfl
  · rw [hname]
    cases row.value.value? <;> rfl

theorem foldl_filterMap_cons {α β γ : Type} (f : α → Option β) (g : γ → β → γ) (x : α) (l : List α) (c : γ) :
    ((x :: l).filterMap f).foldl g c = (l.filterMap f).foldl g ((f x).toList.foldl g c) := by
  rw [List.filterMap_cons]
  cases f x <;> rfl

theorem foldlM_withTagRow {rows : List TagRow}
    (hnames : ∀ row ∈ rows, row.name = .null ∨ ∃ name, row.name = .text name) (n : Note) :
    rows.foldlM withTagRow n = .ok ((rows.filterMap TagRow.field?).foldl Note.addField
      { n with tags := (rows.filterMap TagRow.tag?).foldl Note.addTo n.tags }) := by
  induction rows generalizing n with
  | nil => rfl
  | cons row rest ih =>
    rw [List.foldlM_cons, withTagRow_eq (hnames row (by simp))]
    change rest.foldlM withTagRow _ = _
    rw [ih fun other hother => hnames other (.tail _ hother)]
    simp only [Note.foldl_addField, foldl_filterMap_cons]

theorem foldlM_tagsOf (rows : List RecordRow) (n : Note) :
    rows.foldlM (fun n r => (s.tagsOf r.id).foldlM withTagRow n) n
      = (rows.flatMap fun r => s.tagsOf r.id).foldlM withTagRow n := by
  induction rows generalizing n with
  | nil => rfl
  | cons r rest ih =>
    rw [List.foldlM_cons, List.flatMap_cons, List.foldlM_append]
    exact bind_congr fun m => ih m

/-! ## Notes -/

theorem assembledFrom_eq (hs : s.HasPlainRows) (path : Text) {rows : List RecordRow} (hrows : rows ⊆ s.records) :
    s.assembledFrom path rows = .ok (s.noteFrom path rows) := by
  have htexts : rows.foldlM withRecordText (Note.blank path) =
      .ok ⟨path, ([[]].intercalate (rows.map (·.lines))).dropWhile Text.isBlank, [], [], .insert⟩ := by
    rw [foldlM_withRecordText hs hrows (by simp [Note.HasPlainLines, Note.blank]) rfl]
    by_cases hnil : rows = []
    · rw [hnil]
      rfl
    · rw [flatMap_lines_eq hnil]
      rfl
  have hnames : ∀ row ∈ rows.flatMap fun r => s.tagsOf r.id, row.name = .null ∨ ∃ name, row.name = .text name := by
    intro row hrow
    obtain ⟨r, -, hrow⟩ := List.mem_flatMap.1 hrow
    exact hs.name row (List.mem_filter.1 hrow).1
  rw [assembledFrom, htexts]
  change rows.foldlM _ _ = _
  rw [foldlM_tagsOf, foldlM_withTagRow hnames, Note.foldl_addField]
  dsimp only
  rw [Note.foldl_addTo, foldl_keep]
  simp [noteFrom]

def namedTags (s : Store) (ids : List Int) : List TagRow :=
  s.tags.filter fun row => TagRow.isOf ids row && row.name ≠ .null

theorem addTagRowTo_null {row : TagRow} (h : row.name = .null) (notes : Notes) :
    addTagRowTo path notes row = .ok notes := by
  unfold addTagRowTo
  rw [h]
  rfl

theorem foldlM_named (path : Text) (rows : List TagRow) (notes : Notes) :
    (rows.filter (·.name ≠ .null)).foldlM (addTagRowTo path) notes = rows.foldlM (addTagRowTo path) notes := by
  rw [List.foldlM_filter]
  refine foldlM_congr (fun notes row _ => ?_) notes
  by_cases hname : row.name = .null
  · rw [addTagRowTo_null hname]
    simp [hname]
    rfl
  · simp [hname]

theorem notesOf_congr {t : Store} {ids : List Int}
    (hrecords : t.records.filter (fun r => r.id ∈ ids) = s.records.filter fun r => r.id ∈ ids)
    (htags : t.namedTags ids = s.namedTags ids) : t.notesOf ids = s.notesOf ids := by
  have htagsOf {r : RecordRow} (hr : r.id ∈ ids) (u : Store) :
      (u.namedTags ids).filter (TagRow.isOf [r.id]) = (u.tagsOf r.id).filter (·.name ≠ .null) := by
    rw [namedTags, tagsOf, List.filter_filter, List.filter_filter]
    refine List.filter_congr fun row _ => ?_
    have hof : TagRow.isOf [r.id] row = true → TagRow.isOf ids row = true := by
      rw [isOf_iff, isOf_iff]
      rintro ⟨id, hid, hrow⟩
      exact ⟨r.id, hr, by rw [hrow, List.mem_singleton.1 hid]⟩
    cases hone : TagRow.isOf [r.id] row <;> simp_all
  have hsame : ∀ notes, ∀ r ∈ s.records.filter (fun r => r.id ∈ ids), addTagsTo t notes r = addTagsTo s notes r := by
    intro notes r hr
    have hid : r.id ∈ ids := by simpa using (List.mem_filter.1 hr).2
    unfold addTagsTo
    refine bind_congr fun path => ?_
    change (t.tagsOf r.id).foldlM _ _ = (s.tagsOf r.id).foldlM _ _
    rw [← foldlM_named, ← foldlM_named path (s.tagsOf r.id), ← htagsOf hid, ← htagsOf hid, htags]
  unfold notesOf
  rw [hrecords]
  exact bind_congr fun notes => foldlM_congr hsame notes

theorem mem_recordsOf {ids : List Int} {r : RecordRow} :
    r ∈ s.recordsOf ids path ↔ r ∈ s.records ∧ r.path = .text path ∧ r.id ∈ ids := by
  simp only [recordsOf, recordsAt, List.mem_filter, decide_eq_true_eq, and_assoc]

theorem get?_notesOf_eq (hs : s.HasPlainRows) {ids : List Int} {notes : Notes} (h : s.notesOf ids = .ok notes)
    (path : Text) : notes.get? path =
      if s.recordsOf ids path = [] then none else some (s.noteFrom path (s.recordsOf ids path)) := by
  have hget := get?_notesOf h path
  have hrows : s.recordsOf ids path ⊆ s.records := fun r hr => (mem_recordsOf.1 hr).1
  rw [assembledFrom_eq hs path hrows] at hget
  split at hget
  · rw [if_pos ‹_›]
    exact (Except.ok.inj hget).symm
  · rw [if_neg ‹_›]
    exact (Except.ok.inj hget).symm

theorem HasPlainRows.notesOf_succeeds (hs : s.HasPlainRows) (ids : List Int) :
    ∃ notes, s.notesOf ids = .ok notes := by
  have htext : ∀ r ∈ s.records, ∃ text, r.text.asText? = .ok text := by
    intro r hr
    rcases hs.text r hr with htext | ⟨t, htext, -⟩
    · exact ⟨none, by rw [htext]; rfl⟩
    · exact ⟨some t, by rw [htext]; rfl⟩
  have hname : ∀ r ∈ s.records, ∀ row ∈ s.tagsOf r.id, ∃ name, row.name.asText? = .ok name := by
    intro r _ row hrow
    rcases hs.name row (List.mem_filter.1 hrow).1 with hname | ⟨name, hname⟩
    · exact ⟨none, by rw [hname]; rfl⟩
    · exact ⟨some name, by rw [hname]; rfl⟩
  exact notesOf_reads hs.path htext hname ids

theorem mem_keys_notesOf (hs : s.HasPlainRows) {ids : List Int} {notes : Notes} (h : s.notesOf ids = .ok notes) :
    path ∈ notes.keys ↔ ∃ r ∈ s.records, r.id ∈ ids ∧ r.path = .text path := by
  rw [Notes.mem_keys, get?_notesOf_eq hs h]
  constructor
  · rintro ⟨n, hn⟩
    split at hn
    · cases hn
    · obtain ⟨r, hr⟩ := List.exists_mem_of_ne_nil _ ‹_›
      obtain ⟨hmem, hpath, hid⟩ := mem_recordsOf.1 hr
      exact ⟨r, hmem, hid, hpath⟩
  · rintro ⟨r, hmem, hid, hpath⟩
    have hne : s.recordsOf ids path ≠ [] := List.ne_nil_of_mem (mem_recordsOf.2 ⟨hmem, hpath, hid⟩)
    exact ⟨_, if_neg hne⟩

theorem eq_noteFrom (hs : s.HasPlainRows) {ids : List Int} {notes : Notes} (h : s.notesOf ids = .ok notes) {n : Note}
    (hn : notes.get? path = some n) : n = s.noteFrom path (s.recordsOf ids path) := by
  rw [get?_notesOf_eq hs h] at hn
  split at hn
  · cases hn
  · exact (Option.some.inj hn).symm

theorem notesOf_same_ids {ids others : List Int} (h : ∀ id, id ∈ others ↔ id ∈ ids) :
    s.notesOf others = s.notesOf ids := by
  have hrows : (s.records.filter fun r => r.id ∈ others) = s.records.filter fun r => r.id ∈ ids := by
    simp only [h]
  rw [notesOf, notesOf, hrows]

/-- From plain rows exactly one note is made for each path of the records with some ids, in one step from all rows
of that path. Only the set of the ids counts, and no other rows do. -/
theorem notesOf_is_complete (hs : s.HasPlainRows) (ids : List Int) :
    ∃ notes, s.notesOf ids = .ok notes ∧ notes.keys.Nodup ∧
      (∀ path, path ∈ notes.keys ↔ ∃ r ∈ s.records, r.id ∈ ids ∧ r.path = .text path) ∧
      (∀ path n, notes.get? path = some n → n = s.noteFrom path (s.recordsOf ids path)) ∧
      (∀ others : List Int, (∀ id, id ∈ others ↔ id ∈ ids) → s.notesOf others = .ok notes) ∧
      ∀ t : Store, (t.records.filter fun r => r.id ∈ ids) = (s.records.filter fun r => r.id ∈ ids) →
        t.namedTags ids = s.namedTags ids → t.notesOf ids = .ok notes := by
  obtain ⟨notes, hnotes⟩ := hs.notesOf_succeeds ids
  refine ⟨notes, hnotes, Notes.nodup_keys notes, fun path => mem_keys_notesOf hs hnotes,
    fun path n hn => eq_noteFrom hs hnotes hn, ?_, ?_⟩
  · intro others hothers
    rw [notesOf_same_ids hothers, hnotes]
  · intro t hrecords htags
    rw [notesOf_congr hrecords htags, hnotes]

def scattered : Store where
  records := [⟨1, .text ['p'], .text "\nOne.".toList⟩, ⟨2, .text ['p'], .null⟩,
    ⟨3, .text ['p'], .text "Three.\n".toList⟩]
  tags := [⟨.integer 3, .text ['x'], .integer 0⟩, ⟨.integer 1, .text ['a'], .null⟩,
    ⟨.integer 1, .text ['x'], .real (.ofRank true 0)⟩, ⟨.integer 2, .null, .text ['y']⟩,
    ⟨.integer 3, .text ['a'], .null⟩, ⟨.integer 9, .text ['b'], .null⟩]
  config := []
  uniquePaths := false
  uniqueTexts := false
  rising := by decide

theorem notesOf_is_complete_scattered :
    scattered.HasPlainRows ∧ ∃ notes, scattered.notesOf [3, 1, 3, 2] = .ok notes ∧ notes.keys.Nodup ∧
      notes.get? ['p'] = some ⟨['p'], ["One.".toList, [], [], "Three.".toList], [['a']],
        [(['x'], .number (.ofRank true 0))], .insert⟩ ∧
      scattered.notesOf [1, 2, 3] = .ok notes := by
  have hplain : scattered.HasPlainRows := by
    constructor
    · simp [scattered]
    · simp [scattered]
    · simp [scattered]
  obtain ⟨notes, hnotes, hnodup, hkeys, hget, hothers, -⟩ := notesOf_is_complete hplain [3, 1, 3, 2]
  have hkey : ['p'] ∈ notes.keys := (hkeys ['p']).2 ⟨⟨2, .text ['p'], .null⟩, by simp [scattered]⟩
  obtain ⟨n, hn⟩ := Notes.mem_keys.1 hkey
  refine ⟨hplain, notes, hnotes, hnodup, ?_, hothers [1, 2, 3] fun id => ?_⟩
  · rw [hn, hget ['p'] n hn]
    decide +kernel
  · simp only [List.mem_cons, List.not_mem_nil, or_false]
    omega

end Store

end Notebook
