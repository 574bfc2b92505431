import Notebook.Proofs.Page.Found

/-! # Pages written from what was read

The notes of any page, written one after the other, are read back as they were if nothing in their
written form is taken for something else, and only then.
-/

namespace Notebook

open Text

namespace Note.IsFound

variable {n : Note}

theorem reread_path_of_nil (h : n.IsFound) (hpath : n.path = []) : n.reread.path = ['@'] := by
  obtain ⟨htags, hfields, hdirective⟩ := h.unnamed hpath
  simp only [reread, hpath, hdirective, details, htags, hfields]
  rfl

theorem reread_path (h : n.IsFound) (hpath : n.path ≠ []) : n.reread.path = n.path := by
  obtain ⟨d, hreread, -⟩ := h.reread_eq hpath
  rw [hreread]

theorem reread_path_ne_nil (h : n.IsFound) : n.reread.path ≠ [] := by
  by_cases hpath : n.path = []
  · rw [h.reread_path_of_nil hpath]
    exact List.cons_ne_nil _ _
  · rwa [h.reread_path hpath]

end Note.IsFound

/-! ## What is read again -/

section

variable {m again : Notes}

theorem readPage_written_eq (hfound : ∀ n ∈ m.inPathOrder, n.IsFound) :
    ∃ again, readPage (m.inPathOrder.flatMap Note.written) = .ok again ∧ ∀ path,
      again.get? path
        = ((m.inPathOrder.map Note.reread).filter (·.path = path)).foldl Note.joinTo? none := by
  obtain ⟨again, hread, -, hget⟩ := readPage_eq (m.inPathOrder.flatMap Note.written)
  rw [notesOnLines_written (fun n hn line hline => ((hfound n hn).lines line hline).2) fun n hn =>
    (hfound n hn).newline] at hget
  exact ⟨again, hread, hget⟩

theorem filter_map_reread {notes : List Note} (h : ∀ n ∈ notes, n.reread.path = n.path) (path : Text) :
    (notes.map Note.reread).filter (·.path = path) = (notes.filter (·.path = path)).map Note.reread := by
  rw [List.filter_map]
  congr 1
  apply List.filter_congr
  intro n hn
  simp [h n hn]

variable (hfound : ∀ n ∈ m.inPathOrder, n.IsFound)
variable (hget : ∀ path, again.get? path
  = ((m.inPathOrder.map Note.reread).filter (·.path = path)).foldl Note.joinTo? none)

include hfound hget

theorem get?_again_nil : again.get? [] = none := by
  have hnone : (m.inPathOrder.map Note.reread).filter (·.path = []) = [] := by
    rw [List.filter_eq_nil_iff]
    intro r hr
    obtain ⟨n, hn, rfl⟩ := List.mem_map.1 hr
    simpa using (hfound n hn).reread_path_ne_nil
  rw [hget, hnone]
  rfl

theorem get?_again (hkeyed : m.IsKeyed) (hnamed : ∀ n ∈ m.toList, n.path ≠ []) (path : Text) :
    again.get? path = (m.get? path).map Note.reread := by
  have hpaths : ∀ n ∈ m.inPathOrder, n.reread.path = n.path := fun n hn =>
    (hfound n hn).reread_path (hnamed n (Notes.mem_inPathOrder.1 hn))
  rw [hget, filter_map_reread hpaths, hkeyed.filter_inPathOrder]
  cases m.get? path <;> rfl

end

/-- The notes of a page are read back from their written forms as they are exactly if all of them are
unambiguous. -/
theorem readPage_again (page : Text) :
    ∃ m, readPage page = .ok m ∧
      (readPage (m.inPathOrder.flatMap Note.written) = .ok m ↔ ∀ n ∈ m.toList, n.IsUnambiguous) := by
  obtain ⟨m, hread, -⟩ := readPage_eq page
  obtain ⟨hkeyed, hfound⟩ := readPage_isFound hread
  have hall : ∀ n ∈ m.toList, n.IsFound := fun n hn => hfound _ n (hkeyed.mem_toList.1 hn)
  have hordered : ∀ n ∈ m.inPathOrder, n.IsFound := fun n hn => hall n (Notes.mem_inPathOrder.1 hn)
  obtain ⟨again, hagain, hget⟩ := readPage_written_eq hordered
  refine ⟨m, hread, ?_⟩
  rw [hagain, Except.ok.injEq]
  constructor
  · rintro rfl
    have hnamed : ∀ n ∈ again.toList, n.path ≠ [] := by
      intro n hn hnil
      have hsome := hkeyed.mem_toList.1 hn
      rw [hnil, get?_again_nil hordered hget] at hsome
      cases hsome
    intro n hn
    have hsame := get?_again hordered hget hkeyed hnamed n.path
    rw [hkeyed.mem_toList.1 hn, Option.map_some, Option.some.injEq] at hsame
    exact ((hall n hn).reread_eq_self_iff (hnamed n hn)).1 hsame.symm
  · intro hplain
    apply Notes.ext_get?
    intro path
    rw [get?_again hordered hget hkeyed fun n hn => (hplain n hn).path_ne_nil]
    cases hn : m.get? path with
    | none => rfl
    | some n =>
      have hmem : n ∈ m.toList := Notes.mem_toList.2 ⟨path, hn⟩
      rw [Option.map_some, ((hall n hmem).reread_eq_self_iff (hplain n hmem).path_ne_nil).2 (hplain n hmem)]

def disguised : Text := "\\ p\n\\ ,@delete\n".toList

def disguisedNotes : Notes := .single ['p'] ⟨['p'], [], ["@delete".toList], [], .insert⟩

/-- The tag comes back as a directive, under which saving deletes the note. -/
theorem readPage_again_disguised :
    readPage disguised = .ok disguisedNotes ∧
      readPage (disguisedNotes.inPathOrder.flatMap Note.written)
        = .ok (.single ['p'] ⟨['p'], [], [], [], .delete⟩) ∧
      readPage (disguisedNotes.inPathOrder.flatMap Note.written) ≠ .ok disguisedNotes := by
  decide +kernel

end Notebook
