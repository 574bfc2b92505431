import Mathlib.Order.Monotone.Basic
import Mathlib.Order.Lattice.Nat
import Notebook.Proofs.Number.Rounding

/-! # Rounding keeps the order

The nearest magnitude to a quotient is not above a magnitude that is not below the quotient, and likewise the other
way round. Magnitudes that are known to be there thus tell where a rounded quotient lies.
-/

namespace Notebook

/-! ## Rounded quotients -/

/-- A quotient is rounded to less than a whole number if it lies below the half in front of it. Half a step is rounded
up to even numbers, or to all. -/
theorem roundDiv_lt_iff {tie : Tie} {num den q : Nat} (hden : 0 < den) (htie : tie = .up ∨ q % 2 = 0) :
    roundDiv tie num den < q ↔ 2 * num + den < 2 * q * den := by
  have hsplit : den * (num / den) + num % den = num := Nat.div_add_mod num den
  have hrest : num % den < den := Nat.mod_lt _ hden
  unfold roundDiv
  dsimp only
  generalize num / den = quotient at *
  generalize num % den = rest at *
  subst hsplit
  rcases Nat.lt_trichotomy q (quotient + 1) with hbelow | rfl | habove
  · have hge : q * den ≤ quotient * den := Nat.mul_le_mul_right _ (by omega)
    have hnot : ¬2 * (den * quotient + rest) + den < 2 * q * den := by
      rw [not_lt]
      linarith
    refine iff_of_false ?_ hnot
    split
    · omega
    split
    · omega
    cases tie <;> dsimp only <;> omega
  · have hhalf : 2 * (den * quotient + rest) + den < 2 * (quotient + 1) * den ↔ 2 * rest < den := by
      constructor <;> intro h <;> linarith
    rw [hhalf]
    split
    · omega
    split
    · omega
    cases tie with
    | up => dsimp only; omega
    | toEven =>
      have heven : (quotient + 1) % 2 = 0 := htie.resolve_left (by simp)
      dsimp only
      omega
  · have hle : (quotient + 2) * den ≤ q * den := Nat.mul_le_mul_right _ (by omega)
    refine iff_of_true ?_ (by linarith)
    split
    · omega
    split
    · omega
    cases tie <;> dsimp only <;> omega

theorem roundDiv_mul_right (tie : Tie) (num den : Nat) {c : Nat} (hc : 0 < c) :
    roundDiv tie (num * c) (den * c) = roundDiv tie num den := by
  have hless (a b : Nat) : 2 * (a * c) < b * c ↔ 2 * a < b := by
    rw [← Nat.mul_assoc]
    exact Nat.mul_lt_mul_right hc
  have hmore (a b : Nat) : b * c < 2 * (a * c) ↔ b < 2 * a := by
    rw [← Nat.mul_assoc]
    exact Nat.mul_lt_mul_right hc
  unfold roundDiv
  simp only [Nat.mul_div_mul_right _ _ hc, Nat.mul_mod_mul_right, hless, hmore]

/-! ## The order of magnitudes -/

theorem units_strictMono : StrictMono units := strictMono_nat_of_lt_succ units_lt_succ

def IsMagnitude (x : Nat) : Prop := ∃ rank, units rank = x

theorem isMagnitude_mul_pow {k : Nat} (hk : k ≤ 2 ^ 53) (e : Nat) : IsMagnitude (k * Nat.pow 2 e) := by
  rw [Nat.pow_eq]
  induction e generalizing k with
  | zero =>
    have hfirst : units (0 * 2 ^ 52 + k) = k * 2 ^ 0 := units_place hk (.inl rfl)
    exact ⟨_, hfirst⟩
  | succ e ih =>
    rcases Nat.lt_or_ge k (2 ^ 52) with hsmall | hlarge
    · have hdouble : 2 * k * 2 ^ e = k * 2 ^ (e + 1) := by ring
      rw [← hdouble]
      apply ih
      omega
    · have hbinade : units ((e + 1) * 2 ^ 52 + k) = k * 2 ^ (e + 1) := units_place hk (.inr hlarge)
      exact ⟨_, hbinade⟩

/-! ## The nearest rank -/

theorem exists_binade (num : Nat) {den : Nat} (hden : 0 < den) :
    ∃ shift, (shift = 0 ∨ 2 ^ (52 + shift) * den ≤ num) ∧ num < 2 ^ (53 + shift) * den := by
  have hlog : num / den < 2 ^ ((num / den).log2 + 1) := Nat.lt_log2_self
  rcases Nat.lt_or_ge (num / den).log2 53 with hsmall | hlarge
  · refine ⟨0, .inl rfl, ?_⟩
    rw [← Nat.div_lt_iff_lt_mul hden]
    exact hlog.trans_le (Nat.pow_le_pow_right (by omega) (by omega))
  · refine ⟨(num / den).log2 - 52, .inr ?_, ?_⟩
    · rw [← Nat.le_div_iff_mul_le hden, Nat.add_sub_cancel' (by omega)]
      apply Nat.log2_self_le
      intro hzero
      rw [hzero] at hlarge
      exact absurd hlarge (by decide)
    · rw [← Nat.div_lt_iff_lt_mul hden, show 53 + ((num / den).log2 - 52) = (num / den).log2 + 1 by omega]
      exact hlog

/-- The nearest rank as a place in a binade, which lies within half a step of the quotient. -/
theorem nearestRank_place (num : Nat) {den : Nat} (hden : 0 < den) :
    ∃ shift place, nearestRank num den = shift * 2 ^ 52 + place ∧ place ≤ 2 ^ 53 ∧
      (shift = 0 ∨ 2 ^ 52 ≤ place ∧ 2 ^ 52 * (den * 2 ^ shift) ≤ num) ∧
      2 * num ≤ 2 * (place * (den * 2 ^ shift)) + den * 2 ^ shift ∧
      2 * (place * (den * 2 ^ shift)) ≤ 2 * num + den * 2 ^ shift := by
  obtain ⟨shift, hlow, hhigh⟩ := exists_binade num hden
  have hstep : 0 < den * 2 ^ shift := Nat.mul_pos hden (Nat.two_pow_pos shift)
  have hnear := roundDiv_near .toEven num hstep
  refine ⟨shift, _, nearestRank_binade hden hlow hhigh, ?_, ?_, hnear⟩
  · generalize roundDiv .toEven num (den * 2 ^ shift) = place at hnear
    by_contra hlarge
    have hle : (2 ^ 53 + 1) * (den * 2 ^ shift) ≤ place * (den * 2 ^ shift) := Nat.mul_le_mul_right _ (by omega)
    rw [Nat.pow_add] at hhigh
    linarith
  · refine hlow.imp_right fun hlow => ?_
    have hfirst : 2 ^ 52 * (den * 2 ^ shift) ≤ num := by
      rw [Nat.pow_add] at hlow
      linarith
    refine ⟨?_, hfirst⟩
    generalize roundDiv .toEven num (den * 2 ^ shift) = place at hnear
    by_contra hsmall
    have hle : (place + 1) * (den * 2 ^ shift) ≤ 2 ^ 52 * (den * 2 ^ shift) := Nat.mul_le_mul_right _ (by omega)
    linarith

theorem nearestRank_low (num : Nat) {den : Nat} (hden : 0 < den) :
    (units (nearestRank num den - 1) + units (nearestRank num den)) * den ≤ 2 * num := by
  obtain ⟨shift, place, hrank, hplace, hshift, -, hnear⟩ := nearestRank_place num hden
  have hself : units (nearestRank num den) = place * 2 ^ shift := by
    rw [hrank]
    exact units_place hplace (hshift.imp_right And.left)
  have hpred : units (nearestRank num den - 1) ≤ units (nearestRank num den) :=
    units_strictMono.monotone (Nat.sub_le ..)
  by_cases hfirst : shift ≠ 0 ∧ place = 2 ^ 52
  · -- The first magnitude of a binade is never reached from below.
    obtain ⟨hne, rfl⟩ := hfirst
    obtain ⟨-, hle⟩ := hshift.resolve_left hne
    have hmul := Nat.mul_le_mul_right den hpred
    rw [Nat.add_mul]
    rw [hself] at hmul ⊢
    linarith
  · rcases Nat.eq_zero_or_pos place with rfl | hpos
    · rw [hself] at hpred ⊢
      rw [Nat.zero_mul] at hpred ⊢
      rw [Nat.le_zero.1 hpred]
      omega
    · obtain ⟨p, rfl⟩ : ∃ p, place = p + 1 := ⟨place - 1, by omega⟩
      have hbefore : units (nearestRank num den - 1) = p * 2 ^ shift := by
        rw [hrank, ← Nat.add_assoc, Nat.add_sub_cancel]
        exact units_place (by omega) (by omega)
      rw [hself, hbefore]
      linarith

theorem nearestRank_high (num : Nat) {den : Nat} (hden : 0 < den) :
    2 * num ≤ (units (nearestRank num den) + units (nearestRank num den + 1)) * den := by
  obtain ⟨shift, place, hrank, hplace, hshift, hnear, -⟩ := nearestRank_place num hden
  have hself : units (nearestRank num den) = place * 2 ^ shift := by
    rw [hrank]
    exact units_place hplace (hshift.imp_right And.left)
  have hnext : (place + 1) * 2 ^ shift ≤ units (nearestRank num den + 1) := by
    rcases Nat.lt_or_eq_of_le hplace with hlt | rfl
    · rw [hrank, Nat.add_assoc]
      exact (units_place (by omega) (by omega)).ge
    · have hbinade : units ((shift + 1) * 2 ^ 52 + (2 ^ 52 + 1)) = (2 ^ 52 + 1) * 2 ^ (shift + 1) :=
        units_place (by omega) (by omega)
      have hdouble : 2 ^ (shift + 1) = 2 * 2 ^ shift := by ring
      rw [hrank, show shift * 2 ^ 52 + 2 ^ 53 + 1 = (shift + 1) * 2 ^ 52 + (2 ^ 52 + 1) by omega, hbinade, hdouble]
      linarith
  have hmul := Nat.mul_le_mul_right den hnext
  rw [Nat.add_mul, hself]
  linarith

theorem nearestRank_le {num den rank : Nat} (hden : 0 < den) (h : num ≤ units rank * den) :
    nearestRank num den ≤ rank := by
  by_contra hlt
  have hlow := nearestRank_low num hden
  have hpred : units rank ≤ units (nearestRank num den - 1) := units_strictMono.monotone (by omega)
  have hstep : units (nearestRank num den - 1) < units (nearestRank num den) := units_strictMono (by omega)
  have hmul := Nat.mul_le_mul_right den hpred
  have hmul' := Nat.mul_lt_mul_of_pos_right hstep hden
  rw [Nat.add_mul] at hlow
  omega

theorem le_nearestRank {num den rank : Nat} (hden : 0 < den) (h : units rank * den ≤ num) :
    rank ≤ nearestRank num den := by
  by_contra hlt
  have hhigh := nearestRank_high num hden
  have hnext : units (nearestRank num den + 1) ≤ units rank := units_strictMono.monotone (by omega)
  have hstep := units_lt_succ (nearestRank num den)
  have hmul := Nat.mul_le_mul_right den hnext
  have hmul' := Nat.mul_lt_mul_of_pos_right hstep hden
  rw [Nat.add_mul] at hhigh
  omega

section

variable {num den x : Nat}

theorem units_nearestRank_le (hden : 0 < den) (hx : IsMagnitude x) (h : num ≤ x * den) :
    units (nearestRank num den) ≤ x := by
  obtain ⟨rank, rfl⟩ := hx
  exact units_strictMono.monotone (nearestRank_le hden h)

theorem le_units_nearestRank (hden : 0 < den) (hx : IsMagnitude x) (h : x * den ≤ num) :
    x ≤ units (nearestRank num den) := by
  obtain ⟨rank, rfl⟩ := hx
  exact units_strictMono.monotone (le_nearestRank hden h)

theorem units_nearestRank_self (hden : 0 < den) (hx : IsMagnitude x) : units (nearestRank (x * den) den) = x :=
  Nat.le_antisymm (units_nearestRank_le hden hx (Nat.le_refl _)) (le_units_nearestRank hden hx (Nat.le_refl _))

end

/-! ## Doubles that are not negative -/

theorem one_pos : 0 < one := by decide +kernel

theorem isMagnitude_mul_one {n : Nat} (h : n ≤ 2 ^ 53) : IsMagnitude (n * one) := by
  obtain ⟨e, he⟩ : ∃ e, one = Nat.pow 2 e := ⟨1074, by decide +kernel⟩
  rw [he]
  exact isMagnitude_mul_pow h e

namespace Double

theorem below_finite {rank : Fin rankCount} {k : Nat} :
    (finite false rank).below k = true ↔ units rank < k * one := by
  simp only [below, compareInt?, decide_eq_true_eq, Option.some.injEq, if_neg Bool.false_ne_true, compare_gt_iff_gt,
    ← Nat.cast_mul, Nat.cast_lt]

theorem divNat_finite (rank : Fin rankCount) {k : Nat} (hk : 0 < k) :
    ∃ quotient : Fin rankCount, (finite false rank).divNat k = finite false quotient ∧
      quotient.val = nearestRank (units rank) k := by
  have hle : nearestRank (units rank) k ≤ rank := nearestRank_le hk (Nat.le_mul_of_pos_right _ hk)
  refine ⟨⟨nearestRank (units rank) k, by omega⟩, ?_, rfl⟩
  rw [divNat, ofRank, dif_pos (by omega)]

theorem ofNat_finite {n : Nat} (h : n ≤ 2 ^ 64) :
    ∃ rank : Fin rankCount, ofNat n = finite false rank ∧ rank.val = nearestRank (n * one) 1 := by
  obtain ⟨top, htop, hcount⟩ : ∃ top, units top = 2 ^ 64 * one ∧ top < rankCount :=
    ⟨nearestRank (2 ^ 64 * one) 1, by decide +kernel, by decide +kernel⟩
  have hle : nearestRank (n * one) 1 ≤ top := by
    apply nearestRank_le Nat.one_pos
    rw [htop, Nat.mul_one]
    exact Nat.mul_le_mul_right _ h
  refine ⟨⟨nearestRank (n * one) 1, by omega⟩, ?_, rfl⟩
  rw [ofNat, ofRatio, ofRank, dif_pos (by omega)]

theorem ofNat_exact {n : Nat} (h : n ≤ 2 ^ 53) :
    ∃ rank : Fin rankCount, ofNat n = finite false rank ∧ units rank = n * one := by
  obtain ⟨rank, hrank, hnearest⟩ := ofNat_finite (show n ≤ 2 ^ 64 by omega)
  refine ⟨rank, hrank, ?_⟩
  have hself := units_nearestRank_self Nat.one_pos (isMagnitude_mul_one h)
  rwa [Nat.mul_one, ← hnearest] at hself

end Double

end Notebook
