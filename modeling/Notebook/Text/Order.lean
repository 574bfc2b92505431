import Notebook.Text.Basic

/-! # The order of texts -/

namespace Notebook

namespace Text

/-- The order of the code points, which is also the order of the encoded bytes. -/
def before : Text → Text → Bool
  | [], [] => false
  | [], _ :: _ => true
  | _ :: _, [] => false
  | c :: s, d :: t => c.toNat < d.toNat || (c.toNat = d.toNat && before s t)

theorem before_irrefl (s : Text) : s.before s = false := by
  induction s with
  | nil => rfl
  | cons c s ih => simp [before, ih]

theorem before_trans {s t u : Text} (h : s.before t) (k : t.before u) : s.before u := by
  induction s generalizing t u with
  | nil =>
    cases t with
    | nil => simp [before] at h
    | cons d t => cases u <;> simp_all [before]
  | cons c s ih =>
    cases t with
    | nil => simp [before] at h
    | cons d t =>
      cases u with
      | nil => simp [before] at k
      | cons e u =>
        simp only [before, Bool.or_eq_true, Bool.and_eq_true, decide_eq_true_eq] at h k ⊢
        rcases h with h | ⟨h, h'⟩ <;> rcases k with k | ⟨k, k'⟩
        · exact .inl (by omega)
        · exact .inl (by omega)
        · exact .inl (by omega)
        · exact .inr ⟨by omega, ih h' k'⟩

theorem before_or_before {s t : Text} (h : s ≠ t) : s.before t ∨ t.before s := by
  induction s generalizing t with
  | nil => cases t <;> simp_all [before]
  | cons c s ih =>
    cases t with
    | nil => simp [before]
    | cons d t =>
      simp only [before, Bool.or_eq_true, Bool.and_eq_true, decide_eq_true_eq]
      by_cases hcd : c.toNat = d.toNat
      · have : c = d := by rw [← Char.ofNat_toNat c, hcd, Char.ofNat_toNat]
        have hst : s ≠ t := fun hst => h (by rw [this, hst])
        rcases ih hst with h | h
        · exact .inl (.inr ⟨hcd, h⟩)
        · exact .inr (.inr ⟨hcd.symm, h⟩)
      · omega

end Text

/-! ## Sorting -/

/-- Puts an item before the first whose key does not come before its own. -/
def insertKeyed {α : Type} (item : Text × α) : List (Text × α) → List (Text × α)
  | [] => [item]
  | other :: rest =>
    if other.1.before item.1 then other :: insertKeyed item rest else item :: other :: rest

/-- Items in the order of their keys; items of equal keys keep their order. -/
def sortByKey {α : Type} (key : α → Text) (items : List α) : List α :=
  ((items.map fun item => (key item, item)).foldr insertKeyed []).map (·.2)

end Notebook
