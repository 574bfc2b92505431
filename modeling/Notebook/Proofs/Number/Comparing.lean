import Notebook.Proofs.Merging
import Notebook.Proofs.Number.Rounding
import Notebook.Proofs.Query.Reading
import Notebook.Query.Request
import Notebook.Store.Cell

/-! # A literal on a page and in a query

The literal of a field is read twice. On a page it becomes a double or a text, which is stored; in a query it
stands for itself, and an integer of the query is compared with what is stored exactly.
-/

namespace Notebook

/-! ## Integers and doubles -/

namespace Double

theorem units_zero : units 0 = 0 := by simp [units]

theorem eq_or_zero_of_same {x y : Double} (h : x.same y = true) :
    x = y ∨ ∃ negative negative' rank, x = finite negative rank ∧ y = finite negative' rank ∧ rank.val = 0 := by
  unfold same at h
  split at h
  · rename_i negative rank negative' rank'
    simp only [Bool.and_eq_true, Bool.or_eq_true, decide_eq_true_eq] at h
    obtain ⟨rfl, rfl | hzero⟩ := h
    · exact .inl rfl
    · exact .inr ⟨negative, negative', rank, rfl, rfl, hzero⟩
  · simp_all
  · cases h

theorem compareInt?_same {x y : Double} (h : x.same y = true) (n : Int) : compareInt? n x = compareInt? n y := by
  rcases eq_or_zero_of_same h with rfl | ⟨negative, negative', rank, rfl, rfl, hzero⟩
  · rfl
  · have hmagnitude (negative : Bool) : (if negative then -(units rank.val : Int) else units rank.val) = 0 := by
      rw [hzero, units_zero]
      cases negative <;> rfl
    simp only [compareInt?, hmagnitude]

theorem compare?_self {x : Double} (h : x ≠ nan) : x.compare? x = some .eq := by
  cases x with
  | finite negative _ | infinite negative => cases negative <;> simp [compare?, place?]
  | nan => exact absurd rfl h

theorem compare?_same {x y : Double} (h : x.same y = true) (hx : x ≠ nan) : x.compare? y = some .eq := by
  rcases eq_or_zero_of_same h with rfl | ⟨negative, negative', rank, rfl, rfl, hzero⟩
  · exact compare?_self hx
  · cases negative <;> cases negative' <;> simp [compare?, place?, hzero]

theorem nearestRank_units {rank : Nat} (h : rank ≠ 0) : nearestRank (units rank) 1 = rank := by
  have hlow := units_pred_lt h
  have hhigh := units_lt_succ rank
  exact nearestRank_eq Nat.one_pos h ⟨by omega, by omega, fun _ => ⟨by omega, by omega⟩⟩

theorem compareInt?_eq_some {n : Int} {x : Double} (h : x ≠ .nan) : ∃ o, compareInt? n x = some o := by
  cases x with
  | finite negative rank => exact ⟨_, rfl⟩
  | infinite negative => cases negative <;> exact ⟨_, rfl⟩
  | nan => exact absurd rfl h

theorem compareInt?_finite {n : Int} {negative : Bool} {rank : Fin rankCount} :
    compareInt? n (.finite negative rank) = some .eq ↔
      n * one = if negative then -(units rank.val : Int) else units rank.val := by
  simp only [compareInt?, Option.some.injEq]
  exact Int.compare_eq_eq

theorem exists_finite_of_compareInt? {n : Int} {x : Double} (h : compareInt? n x = some .eq) :
    ∃ negative rank, x = .finite negative rank := by
  cases x with
  | finite negative rank => exact ⟨negative, rank, rfl⟩
  | infinite negative => cases negative <;> simp [compareInt?] at h
  | nan => simp [compareInt?] at h

end Double

theorem Numeral.natAbs_toInt (k : Numeral) : k.toInt.natAbs = k.coefficient := by
  unfold toInt
  split
  · rw [Int.natAbs_neg, Int.natAbs_natCast]
  · rw [Int.natAbs_natCast]

theorem Numeral.value_eq {k : Numeral} (h : k.isInteger = true) :
    k.value = .ofRank k.negative (if k.coefficient = 0 then 0 else nearestRank (k.coefficient * one) 1) := by
  obtain ⟨hfraction, hexponent⟩ : k.fraction = none ∧ k.exponent = none := by simpa [isInteger] using h
  have hpower : k.power = 0 := by simp [power, hfraction, hexponent]
  rw [value, hpower, Double.ofDecimal]
  by_cases hzero : k.coefficient = 0
  · rw [if_pos hzero, if_pos hzero]
  · rw [if_neg hzero, if_neg hzero, if_neg (by decide), if_neg (by omega), if_pos (by decide)]
    simp [Double.ofRatio]

theorem Numeral.compareInt?_value {k : Numeral} (hinteger : k.isInteger = true) {x : Double}
    (h : Double.compareInt? k.toInt x = some .eq) : Double.compareInt? k.toInt k.value = some .eq := by
  obtain ⟨negative, rank, rfl⟩ := Double.exists_finite_of_compareInt? h
  rw [Double.compareInt?_finite] at h
  have hunits : k.coefficient * one = units rank.val := calc
    k.coefficient * one = (k.toInt * one).natAbs := by rw [Int.natAbs_mul, k.natAbs_toInt, Int.natAbs_natCast]
    _ = units rank.val := by
      rw [h]
      split
      · rw [Int.natAbs_neg, Int.natAbs_natCast]
      · rw [Int.natAbs_natCast]
  rw [value_eq hinteger]
  by_cases hzero : k.coefficient = 0
  · have hint : k.toInt = 0 := by simp [toInt, hzero]
    rw [if_pos hzero, hint, Double.ofRank, dif_pos (by decide), Double.compareInt?_finite, Double.units_zero,
      Int.zero_mul]
    cases k.negative <;> rfl
  · have hrank : rank.val ≠ 0 := fun hrank => by
      rw [hrank, Double.units_zero] at hunits
      exact hzero ((Nat.mul_eq_zero.1 hunits).resolve_right (show one ≠ 0 by decide +kernel))
    rw [if_neg hzero, hunits, Double.nearestRank_units hrank, Double.ofRank, dif_pos rank.isLt,
      Double.compareInt?_finite, ← hunits, toInt]
    cases k.negative with
    | false => exact (Int.natCast_mul ..).symm
    | true => rw [if_pos rfl, if_pos rfl, Int.natCast_mul, Int.neg_mul]

/-! ## Literals -/

namespace Text

/-- If a query takes the literal for an integer, then the double that a page has for it is that integer. -/
def IsExact (literal : Text) : Prop :=
  ∀ x, readNumber? literal = some x → ∀ n, Cell.ofOperand (.numeral literal) = .integer n →
    Double.compareInt? n x = some .eq

/-- If a query takes the literal for a real, then for the double nearest to it. -/
def IsReadNearest (literal : Text) : Prop :=
  ∀ k, Numeral.scan? literal = some (k, []) → (∀ n, Cell.ofNumeral k ≠ .integer n) → k.stored = k.value

end Text

theorem of_readNumber? {literal : Text} {x : Double} (h : readNumber? literal = some x) :
    ∃ k, Numeral.scan? literal = some (k, []) ∧ k.value = x ∧
      Cell.ofOperand (operandOf literal) = Cell.ofNumeral k := by
  obtain ⟨k, hk⟩ := scan?_of_readNumber? h
  have hvalue := (Option.filter_eq_some_iff.1 h).1
  have htext : Double.ofText? literal = some k.value := by rw [Double.ofText?, hk]
  refine ⟨k, hk, Option.some.inj (htext.symm.trans hvalue), ?_⟩
  simp only [operandOf, h, Cell.ofOperand, hk]

namespace Cell

theorem ofNumeral_eq_integer {k : Numeral} {n : Int} (h : ofNumeral k = .integer n) :
    k.isInteger = true ∧ n = k.toInt := by
  unfold ofNumeral at h
  split at h
  · rename_i hinteger
    simp only [Bool.and_eq_true] at hinteger
    exact ⟨hinteger.1.1, (Cell.integer.inj h).symm⟩
  · unfold ofNumber at h
    split at h <;> cases h

theorem ofNumeral_eq {k : Numeral} (h : ∀ n, ofNumeral k ≠ .integer n) : ofNumeral k = ofNumber k.stored := by
  unfold ofNumeral at h ⊢
  split
  · rename_i hinteger
    exact absurd (if_pos hinteger) (h k.toInt)
  · rfl

theorem meets_equal (a b : Cell) :
    a.meets .equal b = true ↔ a ≠ .null ∧ b ≠ .null ∧ a.order b = .eq := by
  simp [meets, Comparison.holds, and_assoc]

theorem meets_integer {w : FieldValue} {n : Int} :
    (ofValue w).meets .equal (.integer n) = true ↔ ∃ x, w = .number x ∧ Double.compareInt? n x = some .eq := by
  rw [meets_equal]
  cases w with
  | text t => simp [ofValue, order, kind]
  | number x =>
    by_cases hnan : x = .nan
    · have hnone : Double.compareInt? n .nan = none := rfl
      simp [ofValue, ofNumber, hnan, hnone]
    · obtain ⟨o, ho⟩ := Double.compareInt?_eq_some (n := n) hnan
      cases o <;> simp [ofValue, ofNumber, hnan, order, ho]

theorem meets_ofNumeral {k : Numeral} (hnearest : (∀ n, ofNumeral k ≠ .integer n) → k.stored = k.value)
    {y : Double} (hsame : y.same k.value = true) :
    (ofValue (.number y)).meets .equal (ofNumeral k) = true ↔
      ∀ n, ofNumeral k = .integer n → Double.compareInt? n k.value = some .eq := by
  by_cases hinteger : ∃ n, ofNumeral k = .integer n
  · obtain ⟨n, hn⟩ := hinteger
    rw [hn, meets_integer]
    simp [Double.compareInt?_same hsame]
  · rw [not_exists] at hinteger
    refine iff_of_true ?_ fun n hn => absurd hn (hinteger n)
    have hy : y ≠ .nan := by
      rintro rfl
      cases hsame
    have hvalue : k.value ≠ .nan := by
      intro hnan
      rw [hnan, Double.same_comm] at hsame
      cases hsame
    rw [ofNumeral_eq hinteger, hnearest hinteger, meets_equal]
    simp [ofValue, ofNumber, hvalue, hy, order, Double.compare?_same hsame hy]

end Cell

/-- The value of a literal is equal to it in a query exactly if it is not an integer that was rounded. -/
theorem meets_operandOf_iff {literal : Text} (htrim : literal.trim = literal) (hplain : isWrapped literal = false)
    (hnearest : literal.IsReadNearest) {w : FieldValue} (h : w.same (.read literal) = true) :
    (Cell.ofValue w).meets .equal (.ofOperand (operandOf literal)) = true ↔ literal.IsExact := by
  unfold FieldValue.read at h
  rw [htrim] at h
  cases hread : readNumber? literal with
  | none =>
    rw [hread] at h
    have hexact : literal.IsExact := fun x hx => by simp [hread] at hx
    refine iff_of_true ?_ hexact
    cases w with
    | number y => cases h
    | text t =>
      obtain rfl : t = literal := by simpa [FieldValue.same] using h
      simp [operandOf, hread, meant, hplain, Cell.ofValue, Cell.ofOperand, Cell.meets_equal, Cell.order,
        Cell.compareTexts]
  | some x =>
    obtain ⟨k, hk, rfl, hoperand⟩ := of_readNumber? hread
    rw [hread] at h
    cases w with
    | text t => cases h
    | number y =>
      rw [hoperand, Cell.meets_ofNumeral (hnearest k hk) h]
      simp [Text.IsExact, hread, Cell.ofOperand, hk]

theorem not_meets_operandOf {literal : Text} (h : ¬ literal.IsExact) (w : FieldValue) :
    (Cell.ofValue w).meets .equal (.ofOperand (operandOf literal)) = false := by
  simp only [Text.IsExact, not_forall] at h
  obtain ⟨x, hread, n, hn, hne⟩ := h
  obtain ⟨k, hk, hvalue, hoperand⟩ := of_readNumber? hread
  have hnumeral : Cell.ofNumeral k = .integer n := by simpa only [Cell.ofOperand, hk] using hn
  obtain ⟨hinteger, rfl⟩ := Cell.ofNumeral_eq_integer hnumeral
  rw [hoperand, hnumeral, ← Bool.not_eq_true, Cell.meets_integer]
  rintro ⟨y, -, heq⟩
  exact hne (hvalue ▸ Numeral.compareInt?_value hinteger heq)

end Notebook
