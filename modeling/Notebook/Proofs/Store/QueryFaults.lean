import Notebook.Proofs.Store.Faults
import Notebook.Store.Searching

/-! # What can go wrong in a query

A query that only reads fails because the store cannot be used, and for no other reason: it is held by another
program, the query is none that the engine takes, or it holds rows that are no notes. A query that writes may
also fail by what it would repeat.
-/

namespace Notebook

/-! ## Reading -/

theorem matchingRows_eq_error [Engine] {α : Type} {pattern : Text} {cell : α → Cell} {rows : List α} {e : Failure}
    (h : matchingRows pattern cell rows = .error e) : e = .database := by
  unfold matchingRows at h
  split at h
  · cases h
  · split at h <;> cases h
    rfl

namespace Store

variable {s : Store} {e : Failure}

/-! ## Selections -/

section

variable [Engine]

theorem recordsMeeting_eq_error {condition : Option Condition} (h : s.recordsMeeting condition = .error e) :
    e = .database := by
  unfold recordsMeeting at h
  split at h
  · cases h
  · exact matchingRows_eq_error h
  · exact matchingRows_eq_error h
  · exact (Except.error.inj h).symm

theorem tagsMeeting_eq_error {condition : Option Condition} (h : s.tagsMeeting condition = .error e) :
    e = .database := by
  unfold tagsMeeting at h
  split at h
  · cases h
  · cases h
  · cases h
  · exact matchingRows_eq_error h
  · exact (Except.error.inj h).symm

theorem selected_eq_error {sel : Selection} (h : s.selected sel = .error e) : e = .database := by
  unfold selected at h
  split at h
  · exact recordsMeeting_eq_error (map_eq_error.1 h)
  · exact tagsMeeting_eq_error (map_eq_error.1 h)

theorem exists_of_selectedByAll_eq_error {selections : List Selection} (h : s.selectedByAll selections = .error e) :
    ∃ sel ∈ selections, s.selected sel = .error e := by
  cases selections with
  | nil => cases h
  | cons sel rest =>
    rcases bind_eq_error.1 h with hfirst | ⟨first, -, hrest⟩
    · exact ⟨sel, by simp, hfirst⟩
    · obtain ⟨cells, other, hmem, hother⟩ := foldlM_eq_error hrest
      rcases bind_eq_error.1 hother with hother | ⟨_, -, hpure⟩
      · exact ⟨other, .tail _ hmem, hother⟩
      · cases hpure

theorem selectedByAll_eq_error {selections : List Selection} (h : s.selectedByAll selections = .error e) :
    e = .database := by
  obtain ⟨sel, -, hsel⟩ := exists_of_selectedByAll_eq_error h
  exact selected_eq_error hsel

/-- The engine has one error for all that can go wrong in a selection. -/
theorem elim_selectedByAll (s : Store) (selections : List Selection) :
    (s.selectedByAll selections).toOption.elim (.error .database) .ok = s.selectedByAll selections := by
  cases h : s.selectedByAll selections with
  | ok cells => rfl
  | error e => rw [selectedByAll_eq_error h]; rfl

end

/-! ## Notes -/

end Store

end Notebook
