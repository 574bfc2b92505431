import Notebook.Proofs.Page.Draft
import Notebook.Proofs.Page.Gathering

/-! # What a text starts with

No text that is read or set starts with a blank line. Joined notes can: the line that sets one text off
from another is put there even if the first of them is empty.
-/

namespace Notebook

def Note.startsBlank (n : Note) : Bool := n.lines.head?.any Text.isBlank

namespace Note

theorem startsBlank_setText (n : Note) (t : Text) : (n.setText t).startsBlank = false := by
  unfold startsBlank setText linesOf
  cases hhead : (t.lines.dropWhile Text.isBlank).head? with
  | none => rfl
  | some line => simpa [hhead] using List.head?_dropWhile_not Text.isBlank t.lines

theorem startsBlank_addLine {n : Note} (h : n.startsBlank = false) {line : Text}
    (hline : n.lines = [] → line.isBlank = false) :
    { n with lines := n.lines ++ [line] }.startsBlank = false := by
  unfold startsBlank at h ⊢
  cases hlines : n.lines with
  | nil => simp [hline hlines]
  | cons first rest => simpa [hlines] using h

/-! ## Joining -/

theorem join_lines (n other : Note) : (n.join other).lines = mergedLines n.lines other.lines := by
  rw [join_eq]

theorem join_lines_eq_nil {n other : Note} : (n.join other).lines = [] ↔ n.lines = [] ∧ other.lines = [] := by
  rw [join_lines, mergedLines]
  split
  · rename_i heq
    simp [← heq]
  · rename_i hne
    have hboth : ¬(n.lines = [] ∧ other.lines = []) := fun h => hne (h.1.trans h.2.symm)
    simp [hboth]

theorem startsBlank_join (n other : Note) :
    (n.join other).startsBlank = true ↔ n.startsBlank = true ∨ n.lines = [] ∧ other.lines ≠ [] := by
  unfold startsBlank
  rw [join_lines, mergedLines]
  cases hlines : n.lines with
  | nil => by_cases hother : other.lines = [] <;> simp [hother, Ne.symm, Text.isBlank]
  | cons first rest => split <;> simp

theorem startsBlank_foldl_join (first : Note) (rest : List Note) :
    (rest.foldl join first).startsBlank = true ↔
      first.startsBlank = true ∨ first.lines = [] ∧ ∃ later ∈ rest, later.lines ≠ [] := by
  induction rest generalizing first with
  | nil => simp
  | cons m rest ih =>
    rw [List.foldl_cons, ih, startsBlank_join, join_lines_eq_nil]
    by_cases hm : m.lines = [] <;> simp [hm]

end Note

/-! ## Reading -/

namespace Draft

theorem startsBlank_take {d : Draft} (h : d.note.startsBlank = false) (line : Text) :
    (d.take line).note.startsBlank = false := by
  unfold take
  split
  · unfold takeText
    cases d.stage with
    | preamble => exact h
    | header | body =>
      dsimp only
      split
      · exact h
      · rename_i hkept
        exact Note.startsBlank_addLine h fun hnil => by simpa [hnil] using hkept
  · unfold takeHeader
    -- A header line never adds to the text.
    split_ifs
    · exact h
    · exact h
    · exact h
    · rw [Note.startsBlank, (HeaderItem.addTo_keeps ..).2]
      exact h

theorem startsBlank_finish {d : Draft} (h : d.note.startsBlank = false) :
    ∀ n ∈ d.finish.toList, n.startsBlank = false := by
  unfold finish
  split
  · simp
  · simpa using h

theorem startsBlank_through {d : Draft} (h : d.note.startsBlank = false) (ls : List Text) :
    (∀ n ∈ (d.through ls).1, n.startsBlank = false) ∧ (d.through ls).2.note.startsBlank = false := by
  induction ls generalizing d with
  | nil => exact ⟨by simp [through], h⟩
  | cons line rest ih =>
    rw [through]
    split
    · obtain ⟨hnotes, hlast⟩ := ih (startsBlank_take (d := start) rfl line)
      refine ⟨fun n hn => ?_, hlast⟩
      exact (List.mem_append.1 hn).elim (startsBlank_finish h n) (hnotes n)
    · exact ih (startsBlank_take h line)

end Draft

theorem startsBlank_of_mem_notesOnLines {ls : List Text} : ∀ n ∈ notesOnLines ls, n.startsBlank = false := by
  obtain ⟨hnotes, hlast⟩ := Draft.startsBlank_through (d := .start) rfl ls
  intro n hn
  exact (List.mem_append.1 hn).elim (hnotes n) (Draft.startsBlank_finish hlast n)

theorem startsBlank_foldl_joinTo? {found : List Note} (h : ∀ n ∈ found, n.startsBlank = false) :
    (found.foldl Note.joinTo? none).any Note.startsBlank = true ↔
      ∃ first rest, found = first :: rest ∧ first.lines = [] ∧ ∃ later ∈ rest, later.lines ≠ [] := by
  cases found with
  | nil => simp
  | cons first rest =>
    have hjoined : (first :: rest).foldl Note.joinTo? none = some (rest.foldl Note.join first) :=
      Note.foldl_joinTo?_some first rest
    rw [hjoined, Option.any_some, Note.startsBlank_foldl_join, h first (by simp)]
    simp

/-- No note on the lines of a page starts with a blank line, and of the notes of a page only those do
that were joined to a first one without text; likewise for any two notes that are merged. -/
theorem startsBlank_iff_first_empty (page : Text) :
    (∀ n ∈ notesOnLines page.lines, n.startsBlank = false) ∧
    (∃ notes, readPage page = .ok notes ∧ ∀ path,
      ((notes.get? path).any Note.startsBlank = true ↔
        ∃ first rest, (notesOnLines page.lines).filter (·.path = path) = first :: rest ∧
          first.lines = [] ∧ ∃ later ∈ rest, later.lines ≠ [])) ∧
    ∀ n m : Note, n.path = m.path → n.startsBlank = false →
      ∃ joined, n.merge m = .ok joined ∧ (joined.startsBlank = true ↔ n.lines = [] ∧ m.lines ≠ []) := by
  refine ⟨startsBlank_of_mem_notesOnLines, ?_, fun n m hpath hn => ?_⟩
  · obtain ⟨notes, hread, -, hget⟩ := readPage_eq page
    refine ⟨notes, hread, fun path => ?_⟩
    rw [hget]
    exact startsBlank_foldl_joinTo? fun n hn => startsBlank_of_mem_notesOnLines n (List.mem_filter.1 hn).1
  · refine ⟨n.join m, Note.merge_eq_ok hpath, ?_⟩
    simp [Note.startsBlank_join, hn]

def severed : Text := "\\ p\n\n\\ p\n\nText.\n".toList

def bare : Note := .blank ['p']

def worded : Note := ⟨['p'], ["Text.".toList], [], [], .insert⟩

theorem readPage_severed :
    readPage severed = .ok (.single ['p'] ⟨['p'], [[], "Text.".toList], [], [], .insert⟩) := by
  decide +kernel

theorem startsBlank_iff_first_empty_severed :
    (∃ notes, readPage severed = .ok notes ∧ (notes.get? ['p']).any Note.startsBlank = true) ∧
      bare.path = worded.path ∧ bare.startsBlank = false ∧
      ∃ joined, bare.merge worded = .ok joined ∧ joined.startsBlank = true := by
  obtain ⟨-, ⟨notes, hread, hpaths⟩, hmerged⟩ := startsBlank_iff_first_empty severed
  obtain ⟨joined, hjoined, hblank⟩ := hmerged bare worded rfl rfl
  exact ⟨⟨notes, hread, (hpaths ['p']).2 ⟨bare, [worded], by decide +kernel⟩⟩, rfl, rfl, joined, hjoined,
    hblank.2 (by decide)⟩

/-- The line that was to set the text off stands in front of it. -/
theorem startsBlank_not_kept :
    ¬(∀ page notes, readPage page = .ok notes → ∀ path n, notes.get? path = some n → n.startsBlank = false) ∧
      ¬(∀ n m : Note, n.path = m.path → n.startsBlank = false → m.startsBlank = false →
        ∀ joined, n.merge m = .ok joined → joined.startsBlank = false) := by
  refine ⟨fun h => ?_, fun h => ?_⟩
  · exact absurd (h severed _ readPage_severed ['p'] _ rfl) (by decide)
  · exact absurd (h bare worded rfl rfl (by decide) _ rfl) (by decide)

end Notebook
