import Notebook.Proofs.Number.Comparing
import Notebook.Proofs.Number.Plain
import Notebook.Proofs.Readable.Ages

/-! # Sizes, and the limits of units -/

namespace Notebook

/-! ## Magnitudes divided by powers of two -/

theorem exists_units_eq_mul {rank k : Nat} (h : 2 ^ (53 + k) ≤ units rank) :
    ∃ x, IsMagnitude x ∧ units rank = x * 2 ^ k := by
  obtain ⟨shift, place, rfl, hplace, hshift⟩ := exists_place rank
  rw [units_place hplace.le hshift] at h ⊢
  have hle : k ≤ shift := by
    by_contra hlt
    have hpow : 2 ^ shift ≤ 2 ^ k := Nat.pow_le_pow_right (by omega) (by omega)
    have hmul : place * 2 ^ shift < 2 ^ 53 * 2 ^ k :=
      Nat.lt_of_lt_of_le (Nat.mul_lt_mul_of_pos_right hplace (Nat.two_pow_pos shift)) (Nat.mul_le_mul_left _ hpow)
    rw [Nat.pow_add] at h
    omega
  refine ⟨place * 2 ^ (shift - k), isMagnitude_mul_pow hplace.le _, ?_⟩
  rw [Nat.mul_assoc, ← Nat.pow_add, Nat.sub_add_cancel hle]

/-- Division by 1024 is exact where it takes place. -/
theorem units_nearestRank_1024 {rank : Nat} (h : 1024 * one ≤ units rank) :
    units (nearestRank (units rank) 1024) * 1024 = units rank := by
  have hone : 2 ^ (53 + 10) ≤ 1024 * one := by decide +kernel
  obtain ⟨x, hx, hunits⟩ := exists_units_eq_mul (hone.trans h)
  have hsame : 2 ^ 10 = 1024 := by decide
  rw [hsame] at hunits
  rw [hunits, units_nearestRank_self (by omega) hx]

theorem exists_whole {bytes : Nat} (h : bytes ≤ 2 ^ 64) :
    ∃ (rank : Fin rankCount) (whole : Nat), Double.ofNat bytes = .finite false rank ∧ units rank = whole * one ∧
      whole ≤ 2 ^ 64 ∧ (bytes ≤ 2 ^ 53 → whole = bytes) := by
  rcases Nat.lt_or_ge (2 ^ 53) bytes with hlarge | hsmall
  · obtain ⟨rank, hrank, hnearest⟩ := Double.ofNat_finite h
    obtain ⟨e, he⟩ : ∃ e, one = 2 ^ e := ⟨1074, by decide +kernel⟩
    have hfirst : IsMagnitude (2 ^ 53 * one) := isMagnitude_mul_one (Nat.le_refl _)
    have hge : 2 ^ (53 + e) ≤ units rank := by
      rw [pow_add, ← he, hnearest]
      apply le_units_nearestRank Nat.one_pos hfirst
      rw [Nat.mul_one]
      exact Nat.mul_le_mul_right _ hlarge.le
    have hle : units rank ≤ 2 ^ 64 * one := by
      rw [hnearest]
      apply units_nearestRank_le Nat.one_pos ⟨nearestRank (2 ^ 64 * one) 1, by decide +kernel⟩
      rw [Nat.mul_one]
      exact Nat.mul_le_mul_right _ h
    obtain ⟨whole, -, hunits⟩ := exists_units_eq_mul hge
    rw [← he] at hunits
    rw [hunits] at hle
    exact ⟨rank, whole, hrank, hunits, Nat.le_of_mul_le_mul_right hle one_pos, fun hsmall => by omega⟩
  · obtain ⟨rank, hrank, hunits⟩ := Double.ofNat_exact hsmall
    exact ⟨rank, bytes, hrank, hunits, h, fun _ => rfl⟩

/-! ## Sizes in their units -/

/-- So many tenths of the unit that is 1024 bytes to a power. Bytes have none. -/
def sizeShown (power tenths : Nat) (unit : Text) : Text :=
  if power = 0 then Nat.toDigits 10 (tenths / 10) ++ " bytes".toList
  else Nat.toDigits 10 (tenths / 10) ++ '.' :: Nat.toDigits 10 (tenths % 10) ++ ' ' :: unit ++ ['B']

variable {whole power : Nat} {unit : Text} {rank : Fin rankCount}

theorem tenths_eq (h : units rank * 1024 ^ power = whole * one) :
    roundDiv .toEven (10 * units rank) one = roundDiv .toEven (10 * whole) (1024 ^ power) := by
  have hpos : 0 < 1024 ^ power := Nat.pow_pos (by omega)
  calc
    roundDiv .toEven (10 * units rank) one
      = roundDiv .toEven (10 * units rank * 1024 ^ power) (one * 1024 ^ power) := by
        rw [roundDiv_mul_right _ _ _ hpos]
    _ = roundDiv .toEven (10 * whole * one) (1024 ^ power * one) := by
        rw [Nat.mul_assoc, h, ← Nat.mul_assoc, Nat.mul_comm one]
    _ = roundDiv .toEven (10 * whole) (1024 ^ power) := roundDiv_mul_right _ _ _ one_pos

theorem sizeText_eq (h : units rank * 1024 ^ power = whole * one) (hunit : unit = [] ↔ power = 0) :
    sizeText (.finite false rank) unit
      = sizeShown power (roundDiv .toEven (10 * whole) (1024 ^ power)) unit := by
  unfold sizeText sizeShown
  dsimp only [tenths]
  rw [tenths_eq h]
  by_cases hpower : power = 0
  · -- Whole bytes have no tenths, so what is shown of them ends in `.0`, which is left out.
    have htenths : roundDiv .toEven (10 * whole) 1 = 10 * whole := by
      unfold roundDiv
      rw [Nat.mod_one, Nat.div_one]
      rfl
    have hzero : '.' :: Nat.toDigits 10 0 = ".0".toList := by decide
    rw [if_pos hpower, hpower, Nat.pow_zero, htenths, Nat.mul_mod_right, hzero]
    simp [hunit.2 hpower]
  · have hne : unit ≠ [] := by rwa [ne_eq, hunit]
    simp [hpower, hne]

/-- A size in its largest unit, by induction on the units that are left. -/
theorem sizeIn_eq {us : List Text} (h : units rank * 1024 ^ power = whole * one) (hus : us ≠ [])
    (hstart : 1024 ^ power ≤ max whole 1) (hend : whole < 1024 ^ (power + us.length)) :
    ∃ (i : Nat) (unit : Text) (shown : Fin rankCount), us[i]? = some unit ∧
      sizeIn us (.finite false rank) = sizeText (.finite false shown) unit ∧
      units shown * 1024 ^ (power + i) = whole * one ∧ 1024 ^ (power + i) ≤ max whole 1 ∧
      whole < 1024 ^ (power + i + 1) := by
  induction us generalizing rank power with
  | nil => exact absurd rfl hus
  | cons unit rest ih =>
    have hpos : 0 < 1024 ^ power := Nat.pow_pos (by omega)
    have hbelow : (Double.finite false rank).below 1024 = true ↔ whole < 1024 ^ (power + 1) := by
      rw [Double.below_finite, ← Nat.mul_lt_mul_right hpos, h, Nat.mul_right_comm, Nat.mul_lt_mul_right one_pos,
        Nat.pow_succ, Nat.mul_comm 1024]
    rw [sizeIn]
    by_cases hwithin : whole < 1024 ^ (power + 1)
    · exact ⟨0, unit, rank, rfl, if_pos (hbelow.2 hwithin), h, hstart, hwithin⟩
    · obtain ⟨quotient, hquotient, hrank⟩ := Double.divNat_finite rank (show 0 < 1024 by omega)
      have hlarge : 1024 * one ≤ units rank := by rwa [← hbelow, Double.below_finite, not_lt] at hwithin
      have hexact : units quotient * 1024 ^ (power + 1) = whole * one := by
        rw [Nat.pow_succ, Nat.mul_comm (1024 ^ power), ← Nat.mul_assoc, hrank, units_nearestRank_1024 hlarge, h]
      rw [List.length_cons, ← Nat.add_assoc, Nat.add_right_comm] at hend
      have hrest : rest ≠ [] := by
        rintro rfl
        exact hwithin hend
      obtain ⟨i, found, shown, hfound, hsize, hshown, hreached, hless⟩ := ih hexact hrest (by omega) hend
      rw [if_neg (by rwa [hbelow]), hquotient]
      have hstep : power + 1 + i = power + (i + 1) := by omega
      rw [hstep] at hshown hreached hless
      exact ⟨i + 1, found, shown, hfound, hsize, hshown, hreached, hless⟩

theorem readableSize_whole {bytes : Nat} (h : bytes ≤ 2 ^ 64) :
    ∃ (whole power : Nat) (unit : Text), Double.compareInt? whole (.ofNat bytes) = some .eq ∧
      (bytes ≤ 2 ^ 53 → whole = bytes) ∧ sizeUnits[power]? = some unit ∧
      1024 ^ power ≤ max whole 1 ∧ whole < 1024 ^ (power + 1) ∧
      readableSize bytes = sizeShown power (roundDiv .toEven (10 * whole) (1024 ^ power)) unit := by
  obtain ⟨rank, whole, hrank, hunits, hwhole, hexact⟩ := exists_whole h
  have hvalue : units rank * 1024 ^ 0 = whole * one := by rwa [Nat.pow_zero, Nat.mul_one]
  have hend : whole < 1024 ^ (0 + sizeUnits.length) := by
    have hlength : sizeUnits.length = 8 := rfl
    rw [hlength]
    omega
  obtain ⟨power, unit, shown, hunit, hsize, hshown, hreached, hless⟩ := sizeIn_eq hvalue (by decide) (by omega) hend
  rw [Nat.zero_add] at hshown hreached hless
  have hempty : unit = [] ↔ power = 0 := by
    have hpower : power < 8 := (List.getElem?_eq_some_iff.1 hunit).1
    have hblank : ∀ i < 8, sizeUnits[i]? = some [] ↔ i = 0 := by decide
    rw [← hblank power hpower, hunit, Option.some.injEq]
  refine ⟨whole, power, unit, ?_, hexact, hunit, hreached, hless, ?_⟩
  · rw [hrank, Double.compareInt?_finite, if_neg Bool.false_ne_true, hunits, Int.natCast_mul]
  · rw [readableSize, hrank, hsize, sizeText_eq hshown hempty]

/-! ## The limits of units -/

def leadingNumber (t : Text) : Nat := digitsValue (spanDigits t).1

theorem leadingNumber_toDigits (n : Nat) {rest : Text} (h : ∀ c ∈ rest.head?, c.isDigit = false) :
    leadingNumber (Nat.toDigits 10 n ++ rest) = n := by
  have hdigits : ∀ c ∈ Nat.toDigits 10 n, c.isDigit := fun c hc =>
    Nat.isDigit_of_mem_toDigits (by omega) (by omega) hc
  rw [leadingNumber, spanDigits_append hdigits h, digitsValue_eq, Nat.ofDigitChars_ten_toDigits]

theorem leadingNumber_ageText (count : Nat) (singular plural : Text) :
    leadingNumber (ageText count singular plural) = count := by
  rw [ageText, List.append_assoc]
  exact leadingNumber_toDigits count (by simp)

theorem leadingNumber_sizeShown (power tenths : Nat) (unit : Text) :
    leadingNumber (sizeShown power tenths unit) = tenths / 10 := by
  unfold sizeShown
  split
  · exact leadingNumber_toDigits _ (by simp)
  · rw [List.append_assoc, List.append_assoc]
    exact leadingNumber_toDigits _ (by simp)

/-- An age is counted in the longest unit of which there is one, and a size in the largest. What is shown reaches the
limit of the unit if no more than half of the last digit is missing: it is rounded after the unit is chosen. -/
theorem readable_below_limit_iff (n bytes : Nat) (hn : n < 2 ^ 53) (hbytes : bytes < 2 ^ 64) :
    ((∃ u seconds, (u, seconds) ∈ timeScale ∧ Fits n u seconds ∧
        readableAge (.ofNat n) = ageText (roundDiv .up n seconds) u.singular u.plural ∧
        roundDiv .up n seconds ≤ u.limit ∧
        (roundDiv .up n seconds < u.limit ↔ 2 * n + seconds < 2 * u.limit * seconds)) ∨
      yearSeconds ≤ n ∧ ∃ count, readableAge (.ofNat n) = ageText count "year".toList "years".toList ∧
        roundDiv .up n yearSeconds ≤ count ∧ count ≤ roundDiv .up n yearSeconds + 1) ∧
    ∃ (whole power tenths : Nat) (unit : Text),
      Double.compareInt? whole (.ofNat bytes) = some .eq ∧ (bytes ≤ 2 ^ 53 → whole = bytes) ∧
      sizeUnits[power]? = some unit ∧ 1024 ^ power ≤ max whole 1 ∧ whole < 1024 ^ (power + 1) ∧
      readableSize bytes = sizeShown power tenths unit ∧ tenths ≤ 10240 ∧
      (tenths < 10240 ↔ 20 * whole + 1024 ^ power < 20480 * 1024 ^ power) := by
  constructor
  · refine (readableAge_whole hn).imp_left ?_
    rintro ⟨u, seconds, hmem, hfits, hage⟩
    exact ⟨u, seconds, hmem, hfits, hage, hfits.count_le, hfits.count_lt_iff u.limit⟩
  · obtain ⟨whole, power, unit, hwhole, hexact, hunit, hreached, hless, hsize⟩ := readableSize_whole hbytes.le
    have hpos : 0 < 1024 ^ power := Nat.pow_pos (by omega)
    refine ⟨whole, power, _, unit, hwhole, hexact, hunit, hreached, hless, hsize, ?_, ?_⟩
    · obtain ⟨-, hnear⟩ := roundDiv_near .toEven (10 * whole) hpos
      rw [Nat.pow_succ] at hless
      by_contra hlarge
      have hmul : 10241 * 1024 ^ power ≤ roundDiv .toEven (10 * whole) (1024 ^ power) * 1024 ^ power :=
        Nat.mul_le_mul_right _ (by omega)
      omega
    · rw [roundDiv_lt_iff hpos (.inr rfl), ← Nat.mul_assoc]

theorem readable_below_limit_iff_almost :
    3599 < 2 ^ 53 ∧ 1048575 < 2 ^ 64 ∧ readableAge (.ofNat 3599) = "60 minutes ago".toList ∧
      ∃ tenths unit, sizeUnits[1]? = some unit ∧ readableSize 1048575 = sizeShown 1 tenths unit ∧ ¬tenths < 10240 := by
  obtain ⟨hages, hsizes⟩ := readable_below_limit_iff 3599 1048575 (by omega) (by omega)
  refine ⟨by omega, by omega, ?_, ?_⟩
  · rcases hages with ⟨u, seconds, hmem, ⟨hreached, hwithin⟩, hage, -⟩ | ⟨hyear, -⟩
    · simp only [timeScale, scaled, timeUnits, List.mem_cons, List.not_mem_nil, or_false, Prod.mk.injEq] at hmem
      rcases hmem with ⟨rfl, rfl⟩ | ⟨rfl, rfl⟩ | ⟨rfl, rfl⟩ | ⟨rfl, rfl⟩ | ⟨rfl, rfl⟩
      case inr.inl => exact hage
      all_goals dsimp only at hwithin; omega
    · exact absurd hyear (by decide)
  · obtain ⟨whole, power, tenths, unit, -, hexact, hunit, hreached, hless, hsize, -, hlimit⟩ := hsizes
    obtain rfl := hexact (by omega)
    obtain rfl : power = 1 := by
      have hpower : 1024 ^ power < 1024 ^ 2 := by omega
      have hless : 1024 ^ 1 < 1024 ^ (power + 1) := by omega
      rw [Nat.pow_lt_pow_iff_right (by omega)] at hpower hless
      omega
    exact ⟨tenths, unit, hunit, hsize, by omega⟩

/-- Almost an hour is shown as 60 minutes, and almost a megabyte as 1024.0 kilobytes. -/
theorem readable_not_below_limit :
    ¬(∀ n < 2 ^ 53,
        (∃ u ∈ timeUnits, ∃ count < u.limit, readableAge (.ofNat n) = ageText count u.singular u.plural) ∨
        ∃ count, readableAge (.ofNat n) = ageText count "year".toList "years".toList) ∧
      ¬∀ bytes < 2 ^ 64, ∃ power tenths unit, tenths < 10240 ∧ readableSize bytes = sizeShown power tenths unit := by
  constructor
  · intro h
    have hage : readableAge (.ofNat 3599) = "60 minutes ago".toList := by decide +kernel
    have hcounted : leadingNumber (readableAge (.ofNat 3599)) = 60 := by
      rw [hage]
      decide
    rcases h 3599 (by omega) with ⟨u, hu, count, hcount, htext⟩ | ⟨count, htext⟩
    · have hlimits : ∀ u ∈ timeUnits, u.limit ≤ 60 := by simp [timeUnits]
      have hlimit := hlimits u hu
      rw [htext, leadingNumber_ageText] at hcounted
      omega
    · rw [htext, leadingNumber_ageText] at hcounted
      rw [hage, hcounted] at htext
      exact absurd htext (by decide)
  · intro h
    have hcounted : leadingNumber (readableSize 1048575) = 1024 := by decide +kernel
    obtain ⟨power, tenths, unit, htenths, htext⟩ := h 1048575 (by omega)
    rw [htext, leadingNumber_sizeShown] at hcounted
    omega

end Notebook
