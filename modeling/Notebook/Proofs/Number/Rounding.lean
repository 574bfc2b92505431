import Mathlib.Tactic.Linarith
import Mathlib.Tactic.Ring
import Notebook.Number.Double

/-! # Rounding to the nearest double -/

namespace Notebook

/-! ## Rounded quotients -/

theorem roundDiv_toEven_eq {num den q : Nat} (hden : 0 < den) (hlow : 2 * q * den ≤ 2 * num + den)
    (hhigh : 2 * num ≤ 2 * q * den + den)
    (hodd : q % 2 = 1 → 2 * q * den < 2 * num + den ∧ 2 * num < 2 * q * den + den) :
    roundDiv .toEven num den = q := by
  have hsplit : den * (num / den) + num % den = num := Nat.div_add_mod num den
  have hrest : num % den < den := Nat.mod_lt _ hden
  unfold roundDiv
  dsimp only
  generalize num / den = quotient at *
  generalize num % den = rest at *
  have hle : q ≤ quotient + 1 := by
    by_contra hlt
    have : (quotient + 2) * den ≤ q * den := Nat.mul_le_mul_right _ (by omega)
    linarith
  have hge : quotient ≤ q := by
    by_contra hlt
    have : (q + 1) * den ≤ quotient * den := Nat.mul_le_mul_right _ (by omega)
    linarith
  obtain rfl | rfl : q = quotient ∨ q = quotient + 1 := by omega
  · have hexact : 2 * num = 2 * q * den + 2 * rest := by rw [← hsplit]; ring
    split
    · rfl
    split <;> omega
  · have hexact : 2 * num + 2 * den = 2 * (quotient + 1) * den + 2 * rest := by
      rw [← hsplit]
      ring
    split
    · omega
    split <;> omega

theorem roundDiv_near (tie : Tie) (num : Nat) {den : Nat} (hden : 0 < den) :
    2 * num ≤ 2 * (roundDiv tie num den * den) + den ∧ 2 * (roundDiv tie num den * den) ≤ 2 * num + den := by
  have hsplit : den * (num / den) + num % den = num := Nat.div_add_mod num den
  have hrest : num % den < den := Nat.mod_lt _ hden
  have hsucc : (num / den + 1) * den = den * (num / den) + den := by ring
  have hself : num / den * den = den * (num / den) := Nat.mul_comm ..
  unfold roundDiv
  simp only
  split
  · omega
  split
  · omega
  cases tie with
  | up =>
    dsimp only
    omega
  | toEven =>
    dsimp only
    rcases Nat.mod_two_eq_zero_or_one (num / den) with heven | hodd
    · rw [heven, Nat.add_zero]
      omega
    · rw [hodd]
      omega

/-! ## Magnitudes by binades -/

/-- A rank is a place in a binade: below 2^53 in the first, and from 2^52 on in those after it. -/
theorem exists_place (rank : Nat) :
    ∃ shift place, rank = shift * 2 ^ 52 + place ∧ place < 2 ^ 53 ∧ (shift = 0 ∨ 2 ^ 52 ≤ place) :=
  ⟨rank / 2 ^ 52 - 1, rank - (rank / 2 ^ 52 - 1) * 2 ^ 52, by omega, by omega, by omega⟩

theorem units_place {shift place : Nat} (hplace : place ≤ 2 ^ 53) (hshift : shift = 0 ∨ 2 ^ 52 ≤ place) :
    units (shift * 2 ^ 52 + place) = place * 2 ^ shift := by
  unfold units
  simp only [Nat.pow_eq]
  rcases Nat.lt_or_eq_of_le hplace with hlt | rfl
  · have hbinade : (shift * 2 ^ 52 + place) / 2 ^ 52 - 1 = shift := by omega
    rw [hbinade, Nat.add_sub_cancel_left]
  · have hbinade : (shift * 2 ^ 52 + 2 ^ 53) / 2 ^ 52 - 1 = shift + 1 := by omega
    rw [hbinade, show shift * 2 ^ 52 + 2 ^ 53 - (shift + 1) * 2 ^ 52 = 2 ^ 52 by omega]
    ring

theorem units_lt_succ (rank : Nat) : units rank < units (rank + 1) := by
  obtain ⟨shift, place, rfl, hplace, hshift⟩ := exists_place rank
  rw [units_place (by omega) hshift, Nat.add_assoc, units_place (by omega) (by omega), Nat.add_mul]
  have := Nat.two_pow_pos shift
  omega

theorem units_pred_lt {rank : Nat} (h : rank ≠ 0) : units (rank - 1) < units rank := by
  obtain ⟨r, rfl⟩ := Nat.exists_eq_succ_of_ne_zero h
  exact units_lt_succ r

/-! ## The nearest rank -/

theorem nearestRank_binade {num den shift : Nat} (hden : 0 < den)
    (hlow : shift = 0 ∨ 2 ^ (52 + shift) * den ≤ num) (hhigh : num < 2 ^ (53 + shift) * den) :
    nearestRank num den = shift * 2 ^ 52 + roundDiv .toEven num (den * 2 ^ shift) := by
  have hlog : (num / den).log2 - 52 = shift := by
    have hlt : num / den < 2 ^ (53 + shift) := (Nat.div_lt_iff_lt_mul hden).2 hhigh
    have hle : (num / den).log2 < 53 + shift ∨ num / den = 0 := by
      by_cases hzero : num / den = 0
      · exact .inr hzero
      · exact .inl ((Nat.log2_lt hzero).2 hlt)
    rcases hlow with rfl | hlow
    · rcases hle with hle | hzero
      · omega
      · simp [hzero]
    · have hge : 2 ^ (52 + shift) ≤ num / den := (Nat.le_div_iff_mul_le hden).2 hlow
      have hne : num / den ≠ 0 := by
        have := Nat.two_pow_pos (52 + shift)
        omega
      have := (Nat.le_log2 hne).2 hge
      have := hle.resolve_right hne
      omega
  unfold nearestRank
  simp only [Nat.pow_eq, hlog]

/-- Closer to the magnitude of a rank than the midpoints to its neighbours are, or as close if the rank is
even. -/
structure IsNear (rank num den : Nat) : Prop where
  low : (units (rank - 1) + units rank) * den ≤ 2 * num
  high : 2 * num ≤ (units rank + units (rank + 1)) * den
  odd : rank % 2 = 1 →
    (units (rank - 1) + units rank) * den < 2 * num ∧ 2 * num < (units rank + units (rank + 1)) * den

theorem nearestRank_inside {num den shift p : Nat} (hden : 0 < den) (hp : p + 1 < 2 ^ 53)
    (hshift : shift = 0 ∨ 2 ^ 52 ≤ p) (low : (p + (p + 1)) * 2 ^ shift * den ≤ 2 * num)
    (high : 2 * num ≤ (p + 1 + (p + 2)) * 2 ^ shift * den)
    (odd : (p + 1) % 2 = 1 → (p + (p + 1)) * 2 ^ shift * den < 2 * num ∧
      2 * num < (p + 1 + (p + 2)) * 2 ^ shift * den) :
    nearestRank num den = shift * 2 ^ 52 + (p + 1) := by
  have hpow := Nat.two_pow_pos shift
  have hlow : shift = 0 ∨ 2 ^ (52 + shift) * den ≤ num := by
    refine hshift.imp_right fun hge => ?_
    have : 2 ^ 52 * (2 ^ shift * den) ≤ p * (2 ^ shift * den) := Nat.mul_le_mul_right _ hge
    rw [Nat.pow_add]
    linarith
  have hhigh : num < 2 ^ (53 + shift) * den := by
    have : (2 * p + 3) * (2 ^ shift * den) < 2 ^ 54 * (2 ^ shift * den) :=
      Nat.mul_lt_mul_of_pos_right (by omega) (by positivity)
    rw [Nat.pow_add]
    linarith
  rw [nearestRank_binade hden hlow hhigh]
  congr 1
  apply roundDiv_toEven_eq (by positivity)
  · linarith
  · linarith
  · intro h
    obtain ⟨hlow, hhigh⟩ := odd h
    constructor <;> linarith

/-- Below the first magnitude of a later binade the steps are half as wide as above it. -/
theorem nearestRank_first {num den t : Nat} (hden : 0 < den)
    (low : (2 ^ 53 + 2 ^ 53) * 2 ^ t * den ≤ 2 * num + 2 ^ t * den)
    (high : 2 * num ≤ (2 ^ 53 + (2 ^ 53 + 2)) * 2 ^ t * den) :
    nearestRank num den = (t + 1) * 2 ^ 52 + 2 ^ 52 := by
  have hunit : 0 < 2 ^ t * den := Nat.mul_pos (Nat.two_pow_pos t) hden
  have hdouble : 2 ^ (t + 1) = 2 * 2 ^ t := by ring
  by_cases hbelow : num < 2 ^ (53 + t) * den
  · have hlow : t = 0 ∨ 2 ^ (52 + t) * den ≤ num := by
      right
      rw [Nat.pow_add]
      linarith
    rw [nearestRank_binade hden hlow hbelow]
    rw [Nat.pow_add] at hbelow
    have hround : roundDiv .toEven num (den * 2 ^ t) = 2 ^ 53 := by
      apply roundDiv_toEven_eq (by positivity)
      · linarith
      · linarith
      · omega
    rw [hround]
    omega
  · have hlow : t + 1 = 0 ∨ 2 ^ (52 + (t + 1)) * den ≤ num := by
      right
      rwa [show 52 + (t + 1) = 53 + t by omega, ← Nat.not_lt]
    have hhigh : num < 2 ^ (53 + (t + 1)) * den := by
      rw [Nat.pow_add, hdouble]
      linarith
    rw [nearestRank_binade hden hlow hhigh]
    rw [Nat.pow_add] at hbelow
    have hround : roundDiv .toEven num (den * 2 ^ (t + 1)) = 2 ^ 52 := by
      rw [hdouble]
      apply roundDiv_toEven_eq (by positivity)
      · linarith
      · linarith
      · omega
    rw [hround]

theorem nearestRank_eq {rank num den : Nat} (hden : 0 < den) (hrank : rank ≠ 0) (h : IsNear rank num den) :
    nearestRank num den = rank := by
  obtain ⟨low, high, odd⟩ := h
  obtain ⟨shift, place, hr, hplace, hshift⟩ := exists_place rank
  have hself : units rank = place * 2 ^ shift := hr ▸ units_place (by omega) hshift
  have hnext : units (rank + 1) = (place + 1) * 2 ^ shift := by
    rw [hr, Nat.add_assoc]
    exact units_place (by omega) (by omega)
  rw [hself] at low high odd
  rw [hnext] at high odd
  by_cases hfirst : shift ≠ 0 ∧ place = 2 ^ 52
  · obtain ⟨hne, rfl⟩ := hfirst
    obtain ⟨t, rfl⟩ : ∃ t, shift = t + 1 := ⟨shift - 1, by omega⟩
    have hdouble : 2 ^ (t + 1) = 2 * 2 ^ t := by ring
    have hpred : units (rank - 1) = (2 ^ 53 - 1) * 2 ^ t := by
      rw [hr, show (t + 1) * 2 ^ 52 + 2 ^ 52 - 1 = t * 2 ^ 52 + (2 ^ 53 - 1) by omega]
      exact units_place (by omega) (by omega)
    have hstep : (2 ^ 53 - 1) * 2 ^ t + 2 ^ t = 2 ^ 53 * 2 ^ t := (Nat.succ_mul ..).symm
    rw [hdouble] at low high
    rw [← hpred] at hstep
    have hscaled : (units (rank - 1) + 2 ^ t) * den = 2 ^ 53 * 2 ^ t * den := by rw [hstep]
    rw [hr]
    exact nearestRank_first hden (by linarith) (by linarith)
  · obtain ⟨p, rfl⟩ : ∃ p, place = p + 1 := ⟨place - 1, by omega⟩
    have hpred : units (rank - 1) = p * 2 ^ shift := by
      rw [hr, ← Nat.add_assoc, Nat.add_sub_cancel]
      exact units_place (by omega) (by omega)
    rw [hpred] at low odd
    simp only [← Nat.add_mul] at low high odd
    rw [hr]
    exact nearestRank_inside hden hplace (by omega) low high fun h => odd (by omega)

end Notebook
