import Notebook.Proofs.Page.Draft
import Notebook.Proofs.Page.Gathering

/-! # Fields of a header

A field that stands in a header is a field of the note that is read, whatever stands around it on the page.
-/

namespace Notebook

open Text

/-! ## Equal fields -/

namespace Note

/-- A field of that name has an equal value. -/
def Has (n : Note) (f : Field) : Prop := ∃ g ∈ n.fields, g.same f = true

variable {n m : Note} {f g : Field}

theorem Has.addField (h : n.Has f) (g : Field) : (n.addField g).Has f := by
  obtain ⟨k, hk, hsame⟩ := h
  unfold Note.addField
  split
  · exact ⟨k, hk, hsame⟩
  · exact ⟨k, List.mem_append_left _ hk, hsame⟩

theorem has_addField (h : g.same f = true) : (n.addField g).Has f := by
  unfold Note.addField
  split
  · rename_i hthere
    obtain ⟨k, hk, hsame⟩ := List.any_eq_true.1 hthere
    exact ⟨k, hk, Field.same_trans hsame h⟩
  · exact ⟨g, by simp, h⟩

theorem Has.foldl_addField (h : n.Has f) (fields : List Field) : (fields.foldl Note.addField n).Has f := by
  induction fields generalizing n with
  | nil => exact h
  | cons g rest ih => exact ih (h.addField g)

theorem has_foldl_addField {fields : List Field} (h : ∃ g ∈ fields, g.same f = true) :
    (fields.foldl Note.addField n).Has f := by
  obtain ⟨g, hg, hsame⟩ := h
  obtain ⟨front, back, rfl⟩ := List.append_of_mem hg
  rw [List.foldl_append, List.foldl_cons]
  exact (has_addField hsame).foldl_addField back

theorem foldl_addTag_fields (n : Note) (tags : List Text) : (tags.foldl addTag n).fields = n.fields := by
  rw [foldl_addTag]

theorem Has.join_left (h : n.Has f) (m : Note) : (n.join m).Has f := by
  refine Has.foldl_addField ?_ m.fields
  unfold Has
  rw [foldl_addTag_fields]
  exact h

theorem Has.join_right (h : m.Has f) (n : Note) : (n.join m).Has f := has_foldl_addField h

theorem Has.foldl_join (h : n.Has f) (rest : List Note) : (rest.foldl join n).Has f := by
  induction rest generalizing n with
  | nil => exact h
  | cons m rest ih => exact ih (h.join_left m)

theorem has_foldl_joinTo? {found : List Note} (h : ∃ n ∈ found, n.Has f) :
    ∃ joined, found.foldl joinTo? none = some joined ∧ joined.Has f := by
  obtain ⟨n, hn, hf⟩ := h
  obtain ⟨front, back, rfl⟩ := List.append_of_mem hn
  have hjoined : ∃ here, joinTo? (front.foldl joinTo? none) n = some here ∧ here.Has f := by
    cases front.foldl joinTo? none with
    | none => exact ⟨n, rfl, hf⟩
    | some earlier => exact ⟨earlier.join n, rfl, hf.join_right earlier⟩
  obtain ⟨here, hhere, hf'⟩ := hjoined
  exact ⟨back.foldl join here, by rw [List.foldl_append, List.foldl_cons, hhere, foldl_joinTo?_some],
    hf'.foldl_join back⟩

theorem Has.normal (h : n.Has f) : n.normal.Has f := by
  have hfields : n.normal.fields = (n.fields.foldl Note.addField (blank [])).fields := by
    rw [Note.foldl_addField, foldl_keep]
    simp [Note.normal, blank]
  unfold Has
  rw [hfields]
  exact has_foldl_addField h

end Note

/-! ## Drafts -/

namespace Draft

variable {f : Field} {p : Text} {d : Draft}

/-- A note is begun at a path, with a field. -/
structure Holds (d : Draft) (p : Text) (f : Field) : Prop where
  begun : d.stage ≠ .preamble
  path : d.note.path = p
  named : p ≠ []
  has : d.note.Has f

theorem Holds.take (h : d.Holds p f) (line : Text) : (d.take line).Holds p f := by
  unfold Draft.take
  split
  · unfold takeText
    cases hstage : d.stage with
    | preamble => exact absurd hstage h.begun
    | header | body =>
      dsimp only
      split
      · exact ⟨by simp, h.path, h.named, h.has⟩
      · exact ⟨by simp, h.path, h.named, h.has⟩
  · rename_i content _
    have hpath : d.note.path ≠ [] := h.path ▸ h.named
    unfold takeHeader
    split
    · exact h
    split
    · exact ⟨by simp, h.path, h.named, h.has⟩
    refine ⟨by simp, (HeaderItem.addTo_keeps ..).1.trans h.path, h.named, ?_⟩
    cases HeaderItem.read content with
    | field g => exact h.has.addField g
    | directive _ => exact h.has
    | tags ts =>
      unfold HeaderItem.addTo Note.Has
      rw [Note.foldl_addTag_fields]
      exact h.has

theorem Holds.finish (h : d.Holds p f) : d.finish = some d.note := by
  rw [Draft.finish, if_neg h.begun]

theorem Holds.through (h : d.Holds p f) (ls : List Text) :
    ∃ n ∈ (d.through ls).1 ++ (d.through ls).2.finish.toList, n.path = p ∧ n.Has f := by
  induction ls generalizing d with
  | nil => exact ⟨d.note, by simp [Draft.through, h.finish], h.path, h.has⟩
  | cons line rest ih =>
    rw [Draft.through]
    split
    · exact ⟨d.note, by simp [h.finish], h.path, h.has⟩
    · exact ih (h.take line)

theorem take_fieldLine {name : Text} (hname : '=' ∉ name) (hblank : name.trim ≠ []) (value : Text)
    (hpath : d.note.path ≠ []) :
    d.take (headerLine (name ++ '=' :: value)) = ⟨.header, d.note.addField (name.trim, .read value)⟩ := by
  have hread : PageLine.read (headerLine (name ++ '=' :: value))
      = .header (name.trimStart ++ '=' :: value.trimEnd) := by
    rw [headerLine, PageLine.read_backslash (by simp), trim_cons_blank rfl, trim_append_cons rfl]
  obtain ⟨c, hc⟩ : ∃ c, c ∈ name.trimStart := by
    apply List.exists_mem_of_ne_nil
    intro hnil
    rw [← trim_trimStart, hnil] at hblank
    exact hblank rfl
  have hequals : '=' ∉ name.trimStart := fun hmem => hname ((List.dropWhile_suffix _).subset hmem)
  have hdivider : isDivider (name.trimStart ++ '=' :: value.trimEnd) = false :=
    isDivider_eq_false (List.mem_append_left _ hc) (by simp) (ne_of_mem_of_not_mem hc hequals)
  have hvalue : FieldValue.read value.trimEnd = .read value := by
    rw [← FieldValue.read_trim, trim_trimEnd, FieldValue.read_trim]
  unfold take
  rw [hread]
  dsimp only
  rw [takeHeader, if_neg (by simp), if_neg (by simp [hdivider]), if_neg hpath, HeaderItem.read_field hequals,
    trim_trimStart, hvalue]
  rfl

end Draft

/-! ## Pages -/

theorem FieldValue.same_self_read (literal : Text) : (FieldValue.read literal).same (.read literal) = true := by
  unfold read
  cases hread : readNumber? literal.trim with
  | none => simp [same]
  | some x =>
    have hfinite := (Option.filter_eq_some_iff.1 hread).2
    cases x <;> simp_all [same, Double.same, Double.isFinite]

/-- A field that stands in a header after the path belongs to the note at that path. -/
theorem readPage_has {page : Text} {before after : List Text} {name value : Text} (hname : '=' ∉ name)
    (hblank : name.trim ≠ []) (hlines : page.lines = before ++ headerLine (name ++ '=' :: value) :: after) {d : Draft}
    (hd : (Draft.start.through before).2 = d) (hstage : d.stage = .header) (hpath : d.note.path ≠ []) :
    ∃ notes n, readPage page = .ok notes ∧ notes.get? d.note.path = some n ∧
      n.Has (name.trim, .read value) := by
  have hholds : (d.take (headerLine (name ++ '=' :: value))).Holds d.note.path (name.trim, .read value) := by
    rw [Draft.take_fieldLine hname hblank value hpath]
    refine ⟨by simp, ?_, hpath, Note.has_addField ?_⟩
    · unfold Note.addField
      split <;> rfl
    · simp [Field.same, FieldValue.same_self_read]
  have hthrough : d.through (headerLine (name ++ '=' :: value) :: after)
      = (d.take (headerLine (name ++ '=' :: value))).through after := by
    rw [Draft.through, if_neg (by simp [Draft.refuses, hstage])]
  obtain ⟨n, hn, hnpath, hhas⟩ := hholds.through after
  have hfound : n ∈ notesOnLines page.lines := by
    rw [notesOnLines, hlines, Draft.through_append, hd, hthrough]
    dsimp only
    rw [List.append_assoc]
    exact List.mem_append_right _ hn
  obtain ⟨notes, hread, -, hget⟩ := readPage_eq page
  have hat : n ∈ (notesOnLines page.lines).filter (·.path = d.note.path) :=
    List.mem_filter.2 ⟨hfound, by simpa using hnpath⟩
  obtain ⟨joined, hjoined, hhas'⟩ := Note.has_foldl_joinTo? ⟨n, hat, hhas⟩
  exact ⟨notes, joined, hread, (hget _).trans hjoined, hhas'⟩

end Notebook
