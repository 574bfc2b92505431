import Notebook.Proofs.Page.Gathering
import Notebook.Proofs.Page.WellFormed

/-! # Written notes are read back

Notes whose tags and lines cannot be taken for something else are found on a page just as they were
written on it.
-/

namespace Notebook

open Text

/-- Nothing in a writable note looks like another part of a page. -/
@[mk_iff]
structure Note.Writable (n : Note) : Prop extends n.WellFormed where
  path_ne_nil : n.path ≠ []
  tag_directive : ∀ tag ∈ n.tags, tag.head? ≠ some '@'
  tag_divider : ∀ tag ∈ n.tags, isDivider tag = false
  directive_divider : isDivider ('@' :: n.directive.written) = false
  line_return : ∀ line ∈ n.lines, line.getLast? ≠ some '\r'
  first_line : ∀ line ∈ n.lines.head?, line.isBlank = false

instance (n : Note) : Decidable n.Writable := decidable_of_iff' _ n.writable_iff

theorem Note.Writable.isUnambiguous {n : Note} (h : n.Writable) : n.IsUnambiguous where
  path_ne_nil := h.path_ne_nil
  directive := h.directive_divider
  line_return := h.line_return
  first_line := h.first_line
  rows := by
    refine forall_isTagRow.1 fun row hrow => ?_
    have hmem : ∀ tag ∈ row, tag ∈ n.tags := by
      intro tag htag
      rw [← h.flatten_tagRows]
      exact List.mem_flatten.2 ⟨row, hrow, htag⟩
    obtain ⟨hne, htags⟩ := h.mem_tagRows hrow
    exact isTagRow_of_tags hne htags (fun tag htag => h.tag_directive tag (hmem tag htag))
      fun tag htag => h.tag_divider tag (hmem tag htag)

theorem Note.Writable.reread_eq_self {n : Note} (h : n.Writable) : n.reread = n :=
  (h.reread_eq_self_iff h.path_ne_nil).2 h.isUnambiguous

/-- The notes of a page are the writable notes that were written on it, in order, and those at one path
are joined in that order. -/
theorem readPage_written {notes : List Note} (h : ∀ n ∈ notes, n.Writable) :
    notesOnLines (Text.lines (notes.flatMap Note.written)) = notes ∧
      ∃ m, readPage (notes.flatMap Note.written) = .ok m ∧
        ∀ path, m.get? path = (notes.filter (·.path = path)).foldl Note.joinTo? none := by
  have hfound : notesOnLines (Text.lines (notes.flatMap Note.written)) = notes := by
    rw [notesOnLines_written (fun n hn line hline => ((h n hn).lines line hline).2) fun n hn => (h n hn).newline]
    conv_rhs => rw [← List.map_id notes]
    exact List.map_congr_left fun n hn => (h n hn).reread_eq_self
  obtain ⟨m, hread, -, hget⟩ := readPage_eq (notes.flatMap Note.written)
  rw [hfound] at hget
  exact ⟨hfound, m, hread, hget⟩

def pair : List Note :=
  [⟨"a b".toList, ["\\\\ x".toList, []], ["red".toList, "e@f".toList],
      [("n".toList, .number (.ofRatio true 1 10)), ([], .text "= 1".toList)], .rename "c/d".toList⟩,
    ⟨"a b".toList, ["text".toList], ["--".toList], [], .unknown "now".toList⟩]

theorem readPage_written_pair :
    (∀ n ∈ pair, n.Writable) ∧ notesOnLines (Text.lines (pair.flatMap Note.written)) = pair := by
  have h : ∀ n ∈ pair, n.Writable := by decide +kernel
  exact ⟨h, (readPage_written h).1⟩

end Notebook
