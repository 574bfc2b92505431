import Notebook.Page.Reading
import Notebook.Proofs.Merging
import Notebook.Proofs.Notes

/-! # Gathering notes by path -/

namespace Notebook

def Note.joinTo? (earlier : Option Note) (n : Note) : Option Note :=
  match earlier with
  | none => some n
  | some earlier => some (earlier.join n)

theorem Note.foldl_joinTo?_some (first : Note) (rest : List Note) :
    rest.foldl joinTo? (some first) = some (rest.foldl join first) := by
  induction rest generalizing first with
  | nil => rfl
  | cons m rest ih => exact ih (first.join m)

namespace Notes

theorem IsKeyed.gatherOne_eq {notes : Notes} (h : notes.IsKeyed) (n : Note) :
    ∃ m, notes.gatherOne n = .ok m ∧ m.IsKeyed ∧
      ∀ path, m.get? path = if path = n.path then Note.joinTo? (notes.get? path) n else notes.get? path := by
  have keyed {joined : Note} (hjoined : joined.path = n.path) : (notes.put n.path joined).IsKeyed := by
    intro path k hk
    rw [get?_put] at hk
    split at hk
    · rename_i hpath
      rw [← Option.some.inj hk, hjoined, hpath]
    · exact h path k hk
  unfold gatherOne
  cases hearlier : notes.get? n.path with
  | none =>
    refine ⟨_, rfl, keyed rfl, fun path => ?_⟩
    rw [get?_put]
    split
    · rename_i hpath
      rw [hpath, hearlier]
      rfl
    · rfl
  | some earlier =>
    have hpath := h n.path earlier hearlier
    refine ⟨notes.put n.path (earlier.join n), ?_, keyed (by rw [Note.join_path, hpath]), fun path => ?_⟩
    · simp only [Note.merge_eq_ok hpath]
      rfl
    rw [get?_put]
    split
    · rename_i hpath
      rw [hpath, hearlier]
      rfl
    · rfl

/-- Gathering never fails, and joins the notes at each path in the order in which they were found. -/
theorem IsKeyed.gather_eq {notes : Notes} (h : notes.IsKeyed) (found : List Note) :
    ∃ m, notes.gather found = .ok m ∧ m.IsKeyed ∧
      ∀ path, m.get? path = (found.filter (·.path = path)).foldl Note.joinTo? (notes.get? path) := by
  induction found generalizing notes with
  | nil => exact ⟨notes, rfl, h, fun path => rfl⟩
  | cons n rest ih =>
    obtain ⟨first, hfirst, hkeyed, hget⟩ := h.gatherOne_eq n
    obtain ⟨m, hm, hkeyed', hrest⟩ := ih hkeyed
    refine ⟨m, ?_, hkeyed', fun path => ?_⟩
    · rw [gather, List.foldlM_cons, hfirst]
      exact hm
    · rw [hrest, hget, List.filter_cons]
      by_cases hpath : n.path = path
      · simp [hpath]
      · simp [hpath, Ne.symm hpath]

end Notes

theorem readPage_eq (page : Text) :
    ∃ m, readPage page = .ok m ∧ m.IsKeyed ∧ ∀ path,
      m.get? path = ((notesOnLines page.lines).filter (·.path = path)).foldl Note.joinTo? none :=
  Notes.isKeyed_empty.gather_eq _

/-- What holds of the notes on the lines of a page, and is not lost where notes are joined, holds of the notes of
the page. -/
theorem forall_readPage {page : Text} {notes : Notes} (P : Note → Prop)
    (hjoin : ∀ n m, P n → P m → P (n.join m)) (hlines : ∀ n ∈ notesOnLines page.lines, P n)
    (h : readPage page = .ok notes) : ∀ n ∈ notes.toList, P n := by
  obtain ⟨read, hread, -, hget⟩ := readPage_eq page
  obtain rfl : read = notes := Except.ok.inj (hread.symm.trans h)
  intro n hn
  obtain ⟨path, hpath⟩ := Notes.mem_toList.1 hn
  rw [hget] at hpath
  have hfound : ∀ m ∈ (notesOnLines page.lines).filter (·.path = path), P m :=
    fun m hm => hlines m (List.mem_filter.1 hm).1
  generalize (notesOnLines page.lines).filter (·.path = path) = found at hpath hfound
  cases found with
  | nil => cases hpath
  | cons first rest =>
    have hfold : rest.foldl Note.join first = n := by
      rw [List.foldl_cons] at hpath
      exact Option.some.inj ((Note.foldl_joinTo?_some first rest).symm.trans hpath)
    rw [← hfold]
    refine List.foldlRecOn rest Note.join (motive := P) (hfound first (by simp)) ?_
    intro joined hjoined m hm
    exact hjoin joined m hjoined (hfound m (by simp [hm]))

end Notebook
