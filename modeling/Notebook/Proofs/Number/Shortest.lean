import Notebook.Number.Decimal
import Notebook.Proofs.Number.Rounding

/-! # The fewest digits of a double

The search for the fewest digits always comes to digits that read back, so the decimal form of a double
stands for no other.
-/

namespace Notebook

/-! ## Digits that read back -/

theorem readsBack_iff {rank digits num den low high : Nat} {power : Int}
    (hlow : inPowers (units (rank - 1) + units rank) power = (low, den))
    (hhigh : inPowers (units rank + units (rank + 1)) power = (high, den)) (hnum : num = digits * den) :
    readsBack rank digits power = true ↔
      low ≤ 2 * num ∧ 2 * num ≤ high ∧ (rank % 2 = 1 → low < 2 * num ∧ 2 * num < high) := by
  unfold readsBack
  simp only [hlow, hhigh, Nat.mul_assoc, ← hnum]
  split
  · rename_i heven
    simp [heven]
  · rename_i hodd
    simp only [Bool.and_eq_true, decide_eq_true_eq]
    omega

theorem isNear_of_readsBack_ge {rank digits : Nat} {power : Int} (hpower : 0 ≤ power)
    (h : readsBack rank digits power = true) : IsNear rank (digits * 10 ^ power.toNat * one) 1 := by
  have hin (num : Nat) : inPowers num power = (num, one * 10 ^ power.toNat) := by
    rw [inPowers, if_pos hpower, Nat.pow_eq]
  obtain ⟨low, high, odd⟩ := (readsBack_iff (hin _) (hin _) rfl).1 h
  have hswap : digits * (one * 10 ^ power.toNat) = digits * 10 ^ power.toNat * one := by ring
  rw [hswap] at low high odd
  exact ⟨by simpa only [Nat.mul_one] using low, by simpa only [Nat.mul_one] using high,
    by simpa only [Nat.mul_one] using odd⟩

theorem isNear_of_readsBack_lt {rank digits : Nat} {power : Int} (hpower : power < 0)
    (h : readsBack rank digits power = true) : IsNear rank (digits * one) (10 ^ (-power).toNat) := by
  have hin (num : Nat) : inPowers num power = (num * 10 ^ (-power).toNat, one) := by
    rw [inPowers, if_neg (by omega), Nat.pow_eq]
  obtain ⟨low, high, odd⟩ := (readsBack_iff (hin _) (hin _) rfl).1 h
  exact ⟨low, high, odd⟩

theorem digits_ne_zero_of_readsBack {rank digits : Nat} {power : Int} (hrank : rank ≠ 0)
    (h : readsBack rank digits power = true) : digits ≠ 0 := by
  rintro rfl
  have hpos : 0 < units rank := Nat.zero_lt_of_lt (units_pred_lt hrank)
  rcases lt_or_ge power 0 with hlt | hge
  · have hlow := (isNear_of_readsBack_lt hlt h).low
    have : 0 < (units (rank - 1) + units rank) * 10 ^ (-power).toNat :=
      Nat.mul_pos (by omega) (Nat.pow_pos (by omega))
    omega
  · have hlow := (isNear_of_readsBack_ge hge h).low
    omega

/-! ## The search -/

theorem hit?_readsBack {tie : Tie} {rank digits : Nat} {power : Int}
    (h : hit? tie rank power = some digits) : readsBack rank digits power = true := by
  unfold hit? at h
  dsimp only at h
  generalize roundDiv tie _ _ = nearer at h
  generalize (if nearer = _ then _ else _ : Nat) = farther at h
  by_cases hnearer : readsBack rank nearer power = true
  · rw [if_pos hnearer] at h
    exact Option.some.inj h ▸ hnearer
  rw [if_neg hnearer] at h
  by_cases hfarther : readsBack rank farther power = true
  · rw [if_pos hfarther] at h
    exact Option.some.inj h ▸ hfarther
  · rw [if_neg hfarther] at h
    cases h

/-- 10^324 is more than the units in one, so multiples of 10^-324 lie closer than the magnitudes do. -/
theorem one_lt_pow {k : Nat} (hk : 324 ≤ k) : one < 10 ^ k :=
  calc one < 10 ^ 324 := by decide +kernel
    _ ≤ 10 ^ k := Nat.pow_le_pow_right (by omega) hk

theorem hit?_fine (tie : Tie) {rank k : Nat} (hrank : rank ≠ 0) (hk : 324 ≤ k) :
    (hit? tie rank (-(k : Int))).isSome := by
  have hin (num : Nat) : inPowers num (-(k : Int)) = (num * 10 ^ k, one) := by
    rw [inPowers, if_neg (by omega)]
    simp
  have hreads : readsBack rank (roundDiv tie (units rank * 10 ^ k) one) (-(k : Int)) = true := by
    rw [readsBack_iff (hin _) (hin _) rfl]
    obtain ⟨hnear, hnear'⟩ := roundDiv_near tie (units rank * 10 ^ k) (show 0 < one by decide +kernel)
    generalize roundDiv tie (units rank * 10 ^ k) one * one = num at hnear hnear'
    have hpred : units (rank - 1) + 1 ≤ units rank := units_pred_lt hrank
    have hnext : units rank + 1 ≤ units (rank + 1) := units_lt_succ rank
    have hpred' := Nat.mul_le_mul_right (10 ^ k) hpred
    have hnext' := Nat.mul_le_mul_right (10 ^ k) hnext
    have hfine := one_lt_pow hk
    simp only [Nat.add_mul, Nat.one_mul] at hpred' hnext' ⊢
    omega
  unfold hit?
  simp only [hin, hreads, if_true, Option.isSome_some]

theorem firstHit_readsBack (tie : Tie) {rank fuel k : Nat} {power : Int} (hrank : rank ≠ 0) (hk : 324 ≤ k)
    (hstart : -(k : Int) ≤ power) (hfuel : power + k < fuel) :
    readsBack rank (firstHit tie rank fuel power).1 (firstHit tie rank fuel power).2 = true ∧
      -(k : Int) ≤ (firstHit tie rank fuel power).2 := by
  induction fuel generalizing power with
  | zero => omega
  | succ fuel ih =>
    rw [firstHit]
    cases hhit : hit? tie rank power with
    | some digits => exact ⟨hit?_readsBack hhit, hstart⟩
    | none =>
      -- The search cannot go past a grid on which every magnitude has a hit.
      have hne : power ≠ -(k : Int) := by
        rintro rfl
        simpa [hhit] using hit?_fine tie hrank hk
      exact ih (by omega) (by omega)

/-- The digits of a magnitude that is not zero read back as it, and the last of them is not too far behind
the point. -/
theorem shortest_readsBack (tie : Tie) {rank : Nat} (hrank : rank ≠ 0) :
    readsBack rank (shortest tie rank).1 (shortest tie rank).2 = true ∧ -324 ≤ (shortest tie rank).2 := by
  have hstart (start : Nat) : (start : Int) + (324 : Nat) < (start + 345 : Nat) := by omega
  obtain ⟨hreads, hpower⟩ := firstHit_readsBack tie hrank (Nat.le_refl 324) (by omega) (hstart _)
  exact ⟨hreads, hpower⟩

end Notebook
