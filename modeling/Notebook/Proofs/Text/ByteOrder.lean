import Mathlib.Tactic.SplitIfs
import Notebook.Text.Order
import Notebook.Text.Utf8

/-! # The order of texts is the order of their bytes

A database that compares texts byte by byte and a program that compares them character by character
sort alike, because a greater code point has the greater encoding: the lead byte grows with the number
of bytes, and among as many bytes the bits stand in order, six to a byte.
-/

namespace Notebook.Utf8

variable {c d : Char}

/-! ## One character -/

/-- The digits of a code point, six bits to each but the first. -/
theorem digits_lt {v w : Nat} (h : v < w) (hw : w < 0x110000) :
    v / 262144 % 8 < w / 262144 % 8 ∨ v / 262144 % 8 = w / 262144 % 8 ∧
      (v / 4096 % 64 < w / 4096 % 64 ∨ v / 4096 % 64 = w / 4096 % 64 ∧
        (v / 64 % 64 < w / 64 % 64 ∨ v / 64 % 64 = w / 64 % 64 ∧ v % 64 < w % 64)) := by
  have hlast : v / 64 < w / 64 ∨ v / 64 = w / 64 ∧ v % 64 < w % 64 := by omega
  have hthird (hlt : v / 64 < w / 64) :
      v / 4096 < w / 4096 ∨ v / 4096 = w / 4096 ∧ v / 64 % 64 < w / 64 % 64 := by omega
  have hsecond (hlt : v / 4096 < w / 4096) :
      v / 262144 < w / 262144 ∨ v / 262144 = w / 262144 ∧ v / 4096 % 64 < w / 4096 % 64 := by omega
  rcases hlast with hlt | ⟨heq, hlt⟩
  · rcases hthird hlt with hlt | ⟨heq, hlt⟩
    · rcases hsecond hlt with hlt | ⟨heq, hlt⟩
      · exact .inl (by omega)
      · exact .inr ⟨by omega, .inl hlt⟩
    · exact .inr ⟨by omega, .inr ⟨by omega, .inl hlt⟩⟩
  · exact .inr ⟨by omega, .inr ⟨by omega, .inr ⟨by omega, hlt⟩⟩⟩

theorem encodeChar_append_lt (h : c.toNat < d.toNat) (s t : List UInt8) :
    encodeChar c ++ s < encodeChar d ++ t := by
  have hd : d.val.toNat < 0x110000 := by
    have hvalid := d.valid
    simp only [UInt32.isValidChar, Nat.isValidChar] at hvalid
    omega
  replace h : c.val.toNat < d.val.toNat := h
  unfold encodeChar String.utf8EncodeChar
  generalize c.val.toNat = v at *
  generalize d.val.toNat = w at *
  have hdigits := digits_lt h hd
  have hbyte {n : Nat} (h : n < 256) : (UInt8.ofNat n).toNat = n := UInt8.toNat_ofNat_of_lt' h
  dsimp only
  -- One case for each pair of lengths; `hdigits` is what two of four bytes need.
  split_ifs <;>
    simp only [List.cons_append, List.nil_append, List.cons_lt_cons_iff, UInt8.lt_iff_toNat_lt,
      ← UInt8.toNat_inj]
  all_goals simp (disch := omega) only [hbyte]
  all_goals omega

theorem encodeChar_ne_nil (c : Char) : encodeChar c ≠ [] := by
  unfold encodeChar String.utf8EncodeChar
  dsimp only
  split_ifs <;> exact List.cons_ne_nil _ _

/-! ## Texts -/

theorem append_lt_append_iff (start : List UInt8) {s t : List UInt8} : start ++ s < start ++ t ↔ s < t := by
  induction start with
  | nil => rfl
  | cons b start ih => simp [ih]

theorem before_iff_encode_lt {s t : Text} : s.before t ↔ encode s < encode t := by
  fun_induction Text.before s t with
  | case1 => simp [encode]
  | case2 d t =>
    have hne : encode (d :: t) ≠ [] := by simp [encode, encodeChar_ne_nil]
    obtain ⟨b, rest, hd⟩ := List.exists_cons_of_ne_nil hne
    rw [hd]
    simp [encode]
  | case3 => simp [encode]
  | case4 c s d t ih =>
    have hs : encode (c :: s) = encodeChar c ++ encode s := List.flatMap_cons
    have ht : encode (d :: t) = encodeChar d ++ encode t := List.flatMap_cons
    rw [hs, ht]
    rcases Nat.lt_trichotomy c.toNat d.toNat with h | h | h
    · simp [h, encodeChar_append_lt h]
    · obtain rfl : c = d := by rw [← Char.ofNat_toNat c, h, Char.ofNat_toNat]
      simp [append_lt_append_iff, ih]
    · have hlt := List.lt_asymm (encodeChar_append_lt h (encode t) (encode s))
      simp [Nat.lt_asymm h, Nat.ne_of_gt h, hlt]

end Notebook.Utf8
