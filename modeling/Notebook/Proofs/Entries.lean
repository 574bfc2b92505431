import Notebook.Proofs.Compatibility
import Notebook.Proofs.Page.Found

/-! # Entries are well formed

A reader fills one note at a time and joins it to an earlier one at its path. Each line leaves the note that is
being filled well formed, and so does each joining, so every entry is well formed at any time: on a page, and
over any number of files.
-/

namespace Notebook

open Text

/-! ## Files -/

theorem newline_not_mem_decodedLines {bytes : List UInt8} {line : Text}
    (h : line ∈ (decodedLines (Utf8.lines bytes)).1) : '\n' ∉ line := by
  rw [decodedLines_eq] at h
  obtain ⟨encoded, hencoded, hline⟩ := List.mem_filterMap.1 h
  intro hfeed
  have hmem : encoded ∈ Utf8.lines bytes := (List.takeWhile_prefix _).subset hencoded
  exact Utf8.feed_not_mem_of_mem_lines hmem (Utf8.feed_mem_of_decode? hline hfeed)

namespace Notes

variable {notes : Notes}

theorem IsKeyed.gatherFrom_isFound (hkeyed : notes.IsKeyed) (hnotes : ∀ path n, notes.get? path = some n → n.IsFound)
    (quiet : Bool) {found : List Note} (hfound : ∀ n ∈ found, n.IsFound) (failure : Option Failure) :
    ∀ path n, (Notebook.gatherFrom notes quiet found failure).notes.get? path = some n → n.IsFound := by
  unfold Notebook.gatherFrom
  cases hgather : notes.gather found with
  | error e => exact hnotes
  | ok gathered => exact (hkeyed.gather_isFound hnotes hfound hgather).2

theorem IsGathered.isFound (h : notes.IsGathered) : ∀ path n, notes.get? path = some n → n.IsFound := by
  induction h with
  | empty =>
    intro path n hn
    cases hn
  | @file notes name file quiet hgathered ih =>
    unfold gatherFile
    cases file with
    | missing => exact ih
    | directory => exact ih
    | closed problem => exact ih
    | bytes content =>
      have hlines : ∀ line ∈ (decodedLines (Utf8.lines content)).1, '\n' ∉ line :=
        fun line => newline_not_mem_decodedLines
      dsimp only
      split
      · have hfinished := (Draft.through_isFound (d := .start) Note.IsFound.blank hlines).1
        exact hgathered.isKeyed.gatherFrom_isFound ih quiet hfinished _
      · exact hgathered.isKeyed.gatherFrom_isFound ih quiet (notesOnLines_isFound hlines) _

end Notes

/-! ## Entries -/

theorem IsTag.not_mem {tag : Text} (h : IsTag tag) : ∀ c ∈ [',', ';', '='], c ∉ tag := by
  intro c hc hmem
  simp only [List.mem_cons, List.not_mem_nil, or_false] at hc
  rcases hc with rfl | rfl | rfl
  · exact absurd (h.separators _ hmem) (by decide)
  · exact absurd (h.separators _ hmem) (by decide)
  · exact h.equals hmem

theorem FieldValue.IsWritable.number_or_text {v : FieldValue} (h : v.IsWritable) :
    (∃ x, v = .number x ∧ x.isFinite = true) ∨ ∃ t, v = .text t ∧ t.trim = t ∧ readNumber? t = none := by
  cases v with
  | number x => exact .inl ⟨x, rfl, h⟩
  | text t => exact .inr ⟨t, rfl, h.1.trimmed, h.2⟩

/-- Every page is read, and each entry is all notes of one path joined. Entries are well formed: those of a page, and
those gathered from any files. -/
theorem entries_are_wellFormed :
    (∀ page, ∃ notes, readPage page = .ok notes ∧ ∀ path,
      notes.get? path = ((notesOnLines page.lines).filter (·.path = path)).foldl Note.joinTo? none) ∧
    ∀ notes : Notes, ((∃ page, readPage page = .ok notes) ∨ notes.IsGathered) →
      ∀ path n, notes.get? path = some n →
        n.path = path ∧ path.trim = path ∧ '\n' ∉ path ∧ isDivider path = false ∧
        (path = [] → n.tags = [] ∧ n.fields = [] ∧ n.directive = .insert) ∧
        (∀ tag ∈ n.tags, tag.trim = tag ∧ tag ≠ [] ∧ ∀ c ∈ [',', ';', '='], c ∉ tag) ∧ n.tags.Nodup ∧
        (∀ f ∈ n.fields, f.1.trim = f.1 ∧ '=' ∉ f.1 ∧
          ((∃ x, f.2 = .number x ∧ x.isFinite = true) ∨ ∃ t, f.2 = .text t ∧ t.trim = t ∧ readNumber? t = none)) ∧
        n.fields.Pairwise (fun f g => f.same g = false) ∧
        ∀ line ∈ n.lines, '\n' ∉ line ∧ ∀ rest, line = '\\' :: rest → rest.head? = some '\\' := by
  constructor
  · intro page
    obtain ⟨notes, hread, -, hget⟩ := readPage_eq page
    exact ⟨notes, hread, hget⟩
  intro notes hnotes path n hn
  have hentries : notes.IsKeyed ∧ ∀ path n, notes.get? path = some n → n.IsFound := by
    rcases hnotes with ⟨page, hread⟩ | hgathered
    · exact readPage_isFound hread
    · exact ⟨hgathered.isKeyed, hgathered.isFound⟩
  obtain rfl : n.path = path := hentries.1 path n hn
  have hfound : n.IsFound := hentries.2 n.path n hn
  refine ⟨rfl, hfound.path.trimmed, hfound.path.newline, hfound.path_divider, hfound.unnamed, ?_, hfound.tags_nodup,
    ?_, hfound.fields_distinct, ?_⟩
  · intro tag htag
    have htag := hfound.tags tag htag
    exact ⟨htag.inline.trimmed, htag.ne_nil, htag.not_mem⟩
  · intro f hf
    have hf := hfound.fields f hf
    exact ⟨hf.name.trimmed, hf.equals, hf.value.number_or_text⟩
  · intro line hline
    obtain ⟨hfeed, hheader⟩ := hfound.lines line hline
    exact ⟨hfeed, isHeaderLine_eq_false_iff.1 hheader⟩

def repeating : Text :=
  "\\ p\n\\ b, a; b\n\\ x = 0\n\nOne.\n\\ p\n\\ a, c\n\\ x = -0\n\n\\\\Two.\n".toList

def repeatingJoined : Note :=
  { path := ['p']
    lines := ["One.".toList, [], "\\\\Two.".toList]
    tags := [['b'], ['a'], ['c']]
    fields := [(['x'], .number (.ofRank false 0))]
    directive := .insert }

theorem entries_are_wellFormed_repeating :
    readPage repeating = .ok (.single ['p'] repeatingJoined) ∧
      repeatingJoined.tags.Nodup ∧ repeatingJoined.fields.Pairwise (fun f g => f.same g = false) ∧
      ∀ line ∈ repeatingJoined.lines, '\n' ∉ line ∧ ∀ rest, line = '\\' :: rest → rest.head? = some '\\' := by
  have hread : readPage repeating = .ok (.single ['p'] repeatingJoined) := by decide +kernel
  obtain ⟨-, -, -, -, -, -, hnodup, -, hdistinct, hlines⟩ :=
    entries_are_wellFormed.2 _ (.inl ⟨repeating, hread⟩) ['p'] repeatingJoined rfl
  exact ⟨hread, hnodup, hdistinct, hlines⟩

end Notebook
