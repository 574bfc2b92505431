import Notebook.Proofs.Number.Nearest
import Notebook.Readable

/-! # Ages of whole seconds -/

namespace Notebook

/-! ## Halves -/

/-- Units of 2^-1074 in one half. -/
def half : Nat := Nat.pow 2 1073

theorem one_eq_half : one = 2 * half := by decide +kernel

theorem half_pos : 0 < half := by decide +kernel

theorem exists_half_eq : ∃ e, 30 ≤ e ∧ half = 2 ^ e := ⟨1073, by omega, by decide +kernel⟩

theorem isMagnitude_mul_half {m : Nat} (hm : m ≤ 2 ^ 53) : IsMagnitude (m * half) := by
  obtain ⟨e, -, he⟩ := exists_half_eq
  rw [he]
  exact isMagnitude_mul_pow hm e

/-! ## Doubles that stand for a fraction -/

/-- A magnitude lies on the same side of halves as a number of seconds in a longer unit. As it may have been rounded, it
can be a half where the fraction is not, but from halves that are not too great it keeps a distance of a half over
`2 ^ bits`, which is `2 ^ e` units. -/
structure Tracks (rank n seconds bits e : Nat) : Prop where
  above : ∀ m, m * seconds ≤ 2 * n → m * half ≤ units rank
  below : ∀ m, m * seconds ≤ 2 ^ 55 → 2 * n ≤ m * seconds → units rank ≤ m * half
  distance : half = 2 ^ bits * 2 ^ e
  apart : ∀ m, m * 2 ^ bits ≤ 2 ^ 53 → 2 * n < m * seconds → units rank + 2 ^ e ≤ m * half

theorem tracks_whole {rank n e : Nat} (h : units rank = n * one) (he : half = 2 ^ e) : Tracks rank n 1 0 e := by
  rw [one_eq_half] at h
  refine ⟨fun m hm => ?_, fun m _ hm => ?_, ?_, fun m _ hm => ?_⟩
  · have hmul : m * half ≤ 2 * n * half := Nat.mul_le_mul_right _ (by omega)
    linarith
  · have hmul : 2 * n * half ≤ m * half := Nat.mul_le_mul_right _ (by omega)
    linarith
  · rw [he, Nat.pow_zero, Nat.one_mul]
  · have hmul : (2 * n + 1) * half ≤ m * half := Nat.mul_le_mul_right _ (by omega)
    rw [← he]
    linarith

variable {rank n seconds bits e limit : Nat}

theorem Tracks.divided (h : Tracks rank n seconds bits (e + 6)) (hn : n ≤ 2 ^ 53) (hseconds : 0 < seconds)
    (hfew : 12 ≤ limit) (hmany : limit ≤ 64) :
    Tracks (nearestRank (units rank) limit) n (seconds * limit) (bits + 6) e := by
  have hlimit : 0 < limit := by omega
  have hswap (m : Nat) : m * limit * seconds = m * (seconds * limit) := by ring
  -- A half that is comparable with the fraction has 53 bits.
  have hbits (m : Nat) (hm : m * (seconds * limit) ≤ 2 ^ 55) : m ≤ 2 ^ 53 := by
    have hfactor : 12 ≤ seconds * limit := Nat.le_trans hfew (Nat.le_mul_of_pos_left _ hseconds)
    have hmul : m * 12 ≤ m * (seconds * limit) := Nat.mul_le_mul_left _ hfactor
    omega
  have hdistance : half = 2 ^ (bits + 6) * 2 ^ e := by
    rw [h.distance]
    ring
  refine ⟨fun m hm => ?_, fun m hbound hm => ?_, hdistance, fun m hbound hm => ?_⟩
  · apply le_units_nearestRank hlimit (isMagnitude_mul_half (hbits m (by omega)))
    have habove := h.above (m * limit) (by rwa [hswap])
    linarith
  · apply units_nearestRank_le hlimit (isMagnitude_mul_half (hbits m hbound))
    have hbelow := h.below (m * limit) (by rwa [hswap]) (by rwa [hswap])
    linarith
  · have hscaled : m * limit * 2 ^ bits ≤ m * 2 ^ (bits + 6) := by
      rw [Nat.pow_add, Nat.mul_assoc, Nat.mul_comm limit]
      exact Nat.mul_le_mul_left _ (Nat.mul_le_mul_left _ hmany)
    have hapart := h.apart (m * limit) (hscaled.trans hbound) (by rwa [hswap])
    have hpos : 0 < m * 2 ^ (bits + 6) := by
      apply Nat.mul_pos _ (Nat.two_pow_pos _)
      apply Nat.pos_of_ne_zero
      rintro rfl
      simp at hm
    -- The half less the new distance is a magnitude, and the old distance is at least `limit` times the new one.
    obtain ⟨k, hk⟩ : ∃ k, m * 2 ^ (bits + 6) = k + 1 := ⟨_, (Nat.succ_pred_eq_of_pos hpos).symm⟩
    have hless : k * 2 ^ e + 2 ^ e = m * half := by
      rw [hdistance, ← Nat.mul_assoc, hk]
      ring
    have hmagnitude : IsMagnitude (k * 2 ^ e) := isMagnitude_mul_pow (by omega) e
    have hwide : limit * 2 ^ e ≤ 2 ^ (e + 6) := by
      rw [Nat.pow_add, Nat.mul_comm]
      exact Nat.mul_le_mul_left _ hmany
    have hle : units (nearestRank (units rank) limit) ≤ k * 2 ^ e := by
      apply units_nearestRank_le hlimit hmagnitude
      have hmul : (k * 2 ^ e + 2 ^ e) * limit = m * half * limit := by rw [hless]
      linarith
    omega

theorem Tracks.units_lt_iff (h : Tracks rank n seconds bits e) (hlimit : 2 * limit * 2 ^ bits ≤ 2 ^ 53) :
    units rank < limit * one ↔ n < seconds * limit := by
  rw [one_eq_half]
  constructor
  · intro hlt
    by_contra hge
    have habove := h.above (2 * limit) (by linarith)
    linarith
  · intro hlt
    have hapart := h.apart (2 * limit) hlimit (by linarith)
    have hpos := Nat.two_pow_pos e
    linarith

/-! ## The nearest whole number -/

theorem roundDiv_up_spec (n : Nat) (hseconds : 0 < seconds) :
    2 * roundDiv .up n seconds * seconds ≤ 2 * n + seconds ∧
      2 * n + seconds < 2 * (roundDiv .up n seconds + 1) * seconds := by
  constructor
  · rw [← not_lt, ← roundDiv_lt_iff hseconds (.inl rfl)]
    exact lt_irrefl _
  · rw [← roundDiv_lt_iff hseconds (.inl rfl)]
    exact Nat.lt_succ_self _

theorem Tracks.le_count (h : Tracks rank n seconds bits e) (hseconds : 0 < seconds) :
    roundDiv .up n seconds ≤ roundDiv .up (units rank) one := by
  obtain ⟨hle, -⟩ := roundDiv_up_spec n hseconds
  generalize roundDiv .up n seconds = count at hle
  rw [← not_lt, roundDiv_lt_iff one_pos (.inl rfl), one_eq_half, not_lt]
  cases count with
  | zero => omega
  | succ c =>
    have habove := h.above (2 * c + 1) (by linarith)
    linarith

theorem Tracks.count_eq (h : Tracks rank n seconds bits e) (hseconds : 0 < seconds)
    (hbits : (2 * roundDiv .up n seconds + 1) * 2 ^ bits ≤ 2 ^ 53) :
    roundDiv .up (units rank) one = roundDiv .up n seconds := by
  apply Nat.le_antisymm _ (h.le_count hseconds)
  obtain ⟨-, hlt⟩ := roundDiv_up_spec n hseconds
  rw [← Nat.lt_succ_iff, roundDiv_lt_iff one_pos (.inl rfl), one_eq_half]
  have hapart := h.apart _ hbits (by linarith)
  have hpos := Nat.two_pow_pos e
  linarith

theorem Tracks.count_le (h : Tracks rank n seconds bits e) (hn : n < 2 ^ 53) (hseconds : 0 < seconds)
    (hfew : seconds ≤ 2 ^ 53) : roundDiv .up (units rank) one ≤ roundDiv .up n seconds + 1 := by
  obtain ⟨hle, hlt⟩ := roundDiv_up_spec n hseconds
  rw [← Nat.lt_succ_iff, roundDiv_lt_iff one_pos (.inl rfl), one_eq_half]
  have hbelow := h.below (2 * roundDiv .up n seconds + 1) (by linarith) (by linarith)
  have hpos := half_pos
  linarith

/-! ## Units -/

/-- Units with the seconds in one of each, if there are so many in one of the first. -/
def scaled : Nat → List TimeUnit → List (TimeUnit × Nat)
  | _, [] => []
  | seconds, u :: rest => (u, seconds) :: scaled (seconds * u.limit) rest

def secondsAfter : Nat → List TimeUnit → Nat
  | seconds, [] => seconds
  | seconds, u :: rest => secondsAfter (seconds * u.limit) rest

/-- The longest unit of which there is at least one. An age of no seconds is counted in seconds. -/
structure Fits (n : Nat) (u : TimeUnit) (seconds : Nat) : Prop where
  reached : seconds ≤ max n 1
  within : n < seconds * u.limit

theorem Fits.count_lt_iff {u : TimeUnit} (h : Fits n u seconds) (count : Nat) :
    roundDiv .up n seconds < count ↔ 2 * n + seconds < 2 * count * seconds := by
  have hseconds : 0 < seconds := Nat.pos_of_ne_zero fun hzero => by simpa [hzero] using h.within
  exact roundDiv_lt_iff hseconds (.inl rfl)

theorem Fits.count_le {u : TimeUnit} (h : Fits n u seconds) : roundDiv .up n seconds ≤ u.limit := by
  have hwithin := h.within
  rw [← Nat.lt_succ_iff, h.count_lt_iff]
  linarith

theorem nearestCount_eq {rank : Fin rankCount} (h : roundDiv .up (units rank) one ≤ greatestCount) :
    nearestCount (.finite false rank) = roundDiv .up (units rank) one :=
  Nat.min_eq_right h

/-- An age in its longest unit, by induction on the units. Each division leaves a double that stands for the same seconds
in the next unit. -/
theorem ageIn_tracks {us : List TimeUnit} {rank : Fin rankCount} (h : Tracks rank n seconds bits (e + 6 * us.length))
    (hn : n < 2 ^ 53) (hpos : 0 < seconds) (hstart : seconds ≤ max n 1) (hlimits : ∀ u ∈ us, 12 ≤ u.limit ∧ u.limit ≤ 60)
    (hbits : bits + 6 * us.length ≤ 40) :
    (∃ u unit, (u, unit) ∈ scaled seconds us ∧ Fits n u unit ∧
      ageIn us (.finite false rank) = ageText (roundDiv .up n unit) u.singular u.plural) ∨
    secondsAfter seconds us ≤ max n 1 ∧ ∃ count,
      ageIn us (.finite false rank) = ageText count "year".toList "years".toList ∧
        roundDiv .up n (secondsAfter seconds us) ≤ count ∧ count ≤ roundDiv .up n (secondsAfter seconds us) + 1 := by
  induction us generalizing rank seconds bits with
  | nil =>
    refine .inr ⟨hstart, _, rfl, ?_⟩
    have hle := h.le_count hpos
    have hge := h.count_le hn hpos (by omega)
    obtain ⟨hfew, -⟩ := roundDiv_up_spec n hpos
    have hcount : roundDiv .up n seconds ≤ n + 1 := by
      by_contra hmany
      have hmul : (n + 2) * seconds ≤ roundDiv .up n seconds * seconds := Nat.mul_le_mul_right _ (by omega)
      have hn : n ≤ n * seconds := Nat.le_mul_of_pos_right _ hpos
      linarith
    rw [secondsAfter, nearestCount_eq]
    · exact ⟨hle, hge⟩
    · have hgreatest : greatestCount = 2 ^ 64 - 1 := rfl
      omega
  | cons u rest ih =>
    obtain ⟨hfew, hmany⟩ := hlimits u (by simp)
    rw [List.length_cons] at h hbits
    have hpow : 2 ^ bits ≤ 2 ^ 40 := Nat.pow_le_pow_right (by omega) (by omega)
    have hroom {m : Nat} (hm : m ≤ 121) : m * 2 ^ bits ≤ 2 ^ 53 := by
      have hmul := Nat.mul_le_mul hm hpow
      omega
    have hbelow : (Double.finite false rank).below u.limit = true ↔ n < seconds * u.limit := by
      rw [Double.below_finite]
      exact h.units_lt_iff (hroom (by omega))
    rw [ageIn]
    by_cases hwithin : n < seconds * u.limit
    · have hfits : Fits n u seconds := ⟨hstart, hwithin⟩
      have hcount := h.count_eq hpos (hroom (by have := hfits.count_le; omega))
      refine .inl ⟨u, seconds, by simp [scaled], hfits, ?_⟩
      rw [if_pos (hbelow.2 hwithin), nearestCount_eq, hcount]
      have := hfits.count_le
      have hgreatest : greatestCount = 2 ^ 64 - 1 := rfl
      omega
    · obtain ⟨quotient, hquotient, hrank⟩ := Double.divNat_finite rank (show 0 < u.limit by omega)
      have hdivided : Tracks quotient n (seconds * u.limit) (bits + 6) (e + 6 * rest.length) := by
        rw [hrank]
        exact Tracks.divided (by rwa [Nat.add_assoc]) hn.le hpos hfew (by omega)
      have hnext := ih hdivided (Nat.mul_pos hpos (by omega)) (by omega) (fun v hv => hlimits v (by simp [hv])) (by omega)
      rw [if_neg (by rwa [hbelow]), hquotient]
      refine hnext.imp_left ?_
      rintro ⟨v, unit, hmem, hage⟩
      exact ⟨v, unit, List.mem_cons_of_mem _ hmem, hage⟩

def timeScale : List (TimeUnit × Nat) := scaled 1 timeUnits

def yearSeconds : Nat := secondsAfter 1 timeUnits

theorem readableAge_whole (hn : n < 2 ^ 53) :
    (∃ u seconds, (u, seconds) ∈ timeScale ∧ Fits n u seconds ∧
      readableAge (.ofNat n) = ageText (roundDiv .up n seconds) u.singular u.plural) ∨
    yearSeconds ≤ n ∧ ∃ count, readableAge (.ofNat n) = ageText count "year".toList "years".toList ∧
      roundDiv .up n yearSeconds ≤ count ∧ count ≤ roundDiv .up n yearSeconds + 1 := by
  obtain ⟨top, htop, hhalf⟩ := exists_half_eq
  obtain ⟨e, rfl⟩ : ∃ e, top = e + 6 * timeUnits.length := ⟨top - 30, by simp [timeUnits]; omega⟩
  obtain ⟨rank, hrank, hunits⟩ := Double.ofNat_exact hn.le
  have hlimits : ∀ u ∈ timeUnits, 12 ≤ u.limit ∧ u.limit ≤ 60 := by simp [timeUnits]
  have hages := ageIn_tracks (tracks_whole hunits hhalf) hn Nat.one_pos (by omega) hlimits (by decide)
  have hage : readableAge (.ofNat n) = ageIn timeUnits (.finite false rank) := by
    rw [readableAge, hrank]
    rfl
  rw [hage]
  refine hages.imp_right (And.imp_left fun hyear => ?_)
  have hyears : secondsAfter 1 timeUnits = 31104000 := rfl
  rw [yearSeconds]
  omega

end Notebook
