import Notebook.Number.Numeral
import Notebook.Proofs.Number.Shortest
import Notebook.Proofs.Text.Cutting

/-! # Doubles in full

A finite double that is written out in full is read back as itself.
-/

namespace Notebook

/-! ## Numerals without an exponent -/

theorem digitsValue_eq (t : Text) : digitsValue t = Nat.ofDigitChars 10 t 0 := rfl

theorem spanDigits_append {digits rest : Text} (hdigits : ∀ c ∈ digits, c.isDigit)
    (hrest : ∀ c ∈ rest.head?, c.isDigit = false) : spanDigits (digits ++ rest) = (digits, rest) := by
  obtain ⟨htake, hdrop⟩ := Text.span_append hdigits hrest
  rw [spanDigits, htake, hdrop]

theorem splitSign_append (negative : Bool) {t : Text} (h : ∀ c ∈ t.head?, c.isDigit) :
    splitSign ((if negative then ['-'] else []) ++ t) = (negative, t) := by
  cases negative with
  | true => rfl
  | false =>
    cases t with
    | nil => rfl
    | cons c rest =>
      have hc : c.isDigit = true := h c rfl
      rw [if_neg Bool.false_ne_true, List.nil_append]
      unfold splitSign
      split
      · simp_all
      · simp_all
      · rfl

def fractionText : Option Text → Text
  | none => []
  | some digits => '.' :: digits

namespace Numeral

theorem scan?_written (negative : Bool) {whole : Text} {fraction : Option Text} (hne : whole ≠ [])
    (hwhole : ∀ c ∈ whole, c.isDigit) (hfraction : ∀ c ∈ fraction.getD [], c.isDigit) :
    scan? ((if negative then ['-'] else []) ++ (whole ++ fractionText fraction))
      = some (⟨negative, whole, fraction, none⟩, []) := by
  have hhead : ∀ c ∈ (whole ++ fractionText fraction).head?, c.isDigit := by
    intro c hc
    obtain ⟨d, rest, rfl⟩ := List.exists_cons_of_ne_nil hne
    rw [List.cons_append, List.head?_cons, Option.mem_some_iff] at hc
    exact hc ▸ hwhole d (by simp)
  have hpoint : ∀ c ∈ (fractionText fraction).head?, c.isDigit = false := by
    cases fraction with
    | none => simp [fractionText]
    | some digits => simp [fractionText]
  have hspan : spanFraction (fractionText fraction) = (fraction, []) := by
    cases fraction with
    | none => rfl
    | some digits =>
      have h : spanDigits (digits ++ []) = (digits, []) := spanDigits_append hfraction (by simp)
      rw [List.append_nil] at h
      simp only [fractionText, spanFraction, h]
  unfold scan?
  simp only [splitSign_append negative hhead, spanDigits_append hwhole hpoint, hspan, hne, decide_false,
    Bool.false_and, Bool.false_eq_true, if_false, spanExponent]

end Numeral

/-! ## Digits around a point -/

theorem digitsValue_append_zeros (digits : Text) (n : Nat) :
    digitsValue (digits ++ List.replicate n '0') = digitsValue digits * 10 ^ n := by
  simp only [digitsValue_eq, Nat.ofDigitChars_append, Nat.ofDigitChars_replicate_zero]
  ring

theorem digitsValue_zeros_append (n : Nat) (digits : Text) :
    digitsValue (List.replicate n '0' ++ digits) = digitsValue digits := by
  simp only [digitsValue_eq, Nat.ofDigitChars_append, Nat.ofDigitChars_replicate_zero, Nat.mul_zero]

theorem positional_eq {digits : Text} (hne : digits ≠ []) (hdigits : ∀ c ∈ digits, c.isDigit) (power : Int) :
    ∃ whole fraction, positional false digits (digits.length + power) = whole ++ fractionText fraction ∧
      whole ≠ [] ∧ (∀ c ∈ whole, c.isDigit) ∧ (∀ c ∈ fraction.getD [], c.isDigit) ∧
      digitsValue (whole ++ fraction.getD []) = digitsValue digits * 10 ^ power.toNat ∧
      -((fraction.getD []).length : Int) = min power 0 := by
  have hlength : 0 < digits.length := List.length_pos_iff.2 hne
  have hzeros (n : Nat) : ∀ c ∈ List.replicate n '0', c.isDigit := by
    intro c hc
    rw [List.eq_of_mem_replicate hc]
    rfl
  unfold positional
  by_cases hsmall : digits.length + power ≤ 0
  · refine ⟨['0'], some (List.replicate (-(digits.length + power)).toNat '0' ++ digits), ?_, by simp, by simp,
      ?_, ?_, ?_⟩
    · rw [if_pos hsmall]
      simp [fractionText]
    · intro c hc
      exact (List.mem_append.1 hc).elim (hzeros _ c) (hdigits c)
    · rw [show power.toNat = 0 by omega, Nat.pow_zero, Nat.mul_one, Option.getD_some, ← List.append_assoc]
      exact digitsValue_zeros_append (_ + 1) digits
    · simp only [Option.getD_some, List.length_append, List.length_replicate]
      omega
  rw [if_neg hsmall]
  by_cases hwhole : digits.length ≤ (digits.length + power).toNat
  · refine ⟨digits ++ List.replicate power.toNat '0', none, ?_, by simp [hne], ?_, by simp, ?_, ?_⟩
    · rw [if_pos hwhole, show (digits.length + power).toNat - digits.length = power.toNat by omega]
      simp [fractionText]
    · intro c hc
      exact (List.mem_append.1 hc).elim (hdigits c) (hzeros _ c)
    · rw [Option.getD_none, List.append_nil, digitsValue_append_zeros]
    · have hpower : 0 ≤ power := by omega
      simp [hpower]
  · refine ⟨digits.take (digits.length + power).toNat, some (digits.drop (digits.length + power).toNat), ?_, ?_,
      ?_, ?_, ?_, ?_⟩
    · rw [if_neg hwhole]
      rfl
    · rw [ne_eq, List.take_eq_nil_iff, not_or]
      exact ⟨by omega, hne⟩
    · exact fun c hc => hdigits c (List.mem_of_mem_take hc)
    · exact fun c hc => hdigits c (List.mem_of_mem_drop hc)
    · rw [Option.getD_some, List.take_append_drop, show power.toNat = 0 by omega, Nat.pow_zero, Nat.mul_one]
    · rw [Option.getD_some, List.length_drop]
      omega

/-! ## Reading back -/

theorem Double.ofRank_val (negative : Bool) (rank : Fin rankCount) :
    ofRank negative rank.val = finite negative rank := by
  rw [ofRank, dif_pos rank.isLt]

theorem Double.ofDecimal_zero (negative : Bool) (power : Int) :
    ofDecimal negative 0 power = ofRank negative 0 := by
  rw [ofDecimal, if_pos rfl]

/-- Digits that read back as a magnitude, with the zeros up to the point, are a decimal form of it. -/
theorem Double.ofDecimal_readsBack (negative : Bool) {rank digits : Nat} {power : Int} (hrank : rank ≠ 0)
    (hpower : -324 ≤ power) (h : readsBack rank digits power = true) :
    ofDecimal negative (digits * 10 ^ power.toNat) (min power 0) = ofRank negative rank := by
  have hdigits := digits_ne_zero_of_readsBack hrank h
  have hne : digits * 10 ^ power.toNat ≠ 0 := by
    have : 10 ^ power.toNat ≠ 0 := by positivity
    exact Nat.mul_ne_zero hdigits this
  rw [ofDecimal, if_neg hne, if_neg (by omega), if_neg (by omega)]
  rcases lt_or_ge power 0 with hlt | hge
  · have hmin : min power 0 = power := by omega
    rw [hmin, if_neg (by omega), ofRatio, show power.toNat = 0 by omega, Nat.pow_zero, Nat.mul_one, Nat.pow_eq,
      nearestRank_eq (by positivity) hrank (isNear_of_readsBack_lt hlt h)]
  · have hmin : min power 0 = 0 := by omega
    rw [hmin, if_pos (by omega), ofRatio, Int.toNat_zero, Nat.pow_eq, Nat.pow_zero, Nat.mul_one,
      nearestRank_eq Nat.one_pos hrank (isNear_of_readsBack_ge hge h)]

theorem readNumber?_positional (negative : Bool) {digits : Text} (hne : digits ≠ [])
    (hdigits : ∀ c ∈ digits, c.isDigit) {power : Int} {x : Double} (hfinite : x.isFinite)
    (hvalue : Double.ofDecimal negative (digitsValue digits * 10 ^ power.toNat) (min power 0) = x) :
    readNumber? ((if negative then ['-'] else []) ++ positional false digits (digits.length + power))
      = some x := by
  obtain ⟨whole, fraction, htext, hwhole, hw, hf, hcoefficient, hpower⟩ := positional_eq hne hdigits power
  have hn : (Numeral.mk negative whole fraction none).value = x := by
    rw [← hvalue, ← hcoefficient, ← hpower]
    simp [Numeral.value, Numeral.coefficient, Numeral.power]
  unfold readNumber? Double.ofText?
  rw [htext, Numeral.scan?_written negative hwhole hw hf]
  simp only [hn, Option.filter_some, hfinite, if_true]

theorem NumberStyle.write_zero (style : NumberStyle) (negative : Bool) :
    style.write negative 0 = (if negative then ['-'] else []) ++ style.layOut ['0'] 0 := by
  rw [write, if_pos rfl]

theorem NumberStyle.write_of_ne_zero (style : NumberStyle) (negative : Bool) {rank : Nat} (h : rank ≠ 0) :
    style.write negative rank = (if negative then ['-'] else []) ++
      style.layOut (Nat.toDigits 10 (shortest style.tie rank).1) (shortest style.tie rank).2 := by
  rcases hfound : shortest style.tie rank with ⟨digits, power⟩
  rw [write, if_neg h, hfound]

theorem layOut_plain (digits : Text) (power : Int) :
    plainStyle.layOut digits power = positional false digits (digits.length + power) := rfl

theorem Double.plain_form {x : Double} (h : x.isFinite) :
    ∃ negative digits power, digits ≠ [] ∧ (∀ c ∈ digits, c.isDigit) ∧
      x.plain = (if negative then ['-'] else []) ++ positional false digits (digits.length + power) ∧
      ofDecimal negative (digitsValue digits * 10 ^ power.toNat) (min power 0) = x := by
  obtain ⟨negative, rank⟩ | _ | _ := x
  case infinite | nan => cases h
  rw [plain]
  by_cases hzero : rank.val = 0
  · refine ⟨negative, ['0'], 0, by simp, by simp, ?_, ?_⟩
    · rw [hzero, NumberStyle.write_zero, layOut_plain]
    · rw [show digitsValue ['0'] = 0 from rfl, Nat.zero_mul, ofDecimal_zero, ← ofRank_val, hzero]
  · obtain ⟨hreads, hpower⟩ := shortest_readsBack plainStyle.tie hzero
    refine ⟨negative, Nat.toDigits 10 (shortest plainStyle.tie rank).1, (shortest plainStyle.tie rank).2,
      Nat.toDigits_ne_nil, ?_, ?_, ?_⟩
    · exact fun c hc => Nat.isDigit_of_mem_toDigits (by omega) (by omega) hc
    · rw [NumberStyle.write_of_ne_zero _ _ hzero, layOut_plain]
    · rw [digitsValue_eq, Nat.ofDigitChars_ten_toDigits, ofDecimal_readsBack negative hzero hpower hreads,
        ofRank_val]

/-- What is read is the number that was written. -/
theorem readNumber?_plain {x : Double} (h : x.isFinite) : readNumber? x.plain = some x := by
  obtain ⟨negative, digits, power, hne, hdigits, hplain, hvalue⟩ := Double.plain_form h
  rw [hplain]
  exact readNumber?_positional negative hne hdigits h hvalue

theorem Double.mem_plain {x : Double} (h : x.isFinite) {c : Char} (hc : c ∈ x.plain) :
    c.isDigit ∨ c = '-' ∨ c = '.' := by
  obtain ⟨negative, digits, power, hne, hdigits, hplain, -⟩ := plain_form h
  obtain ⟨whole, fraction, htext, -, hw, hf, -⟩ := positional_eq hne hdigits power
  rw [hplain, htext] at hc
  rcases List.mem_append.1 hc with hc | hc
  · cases negative <;> simp_all
  rcases List.mem_append.1 hc with hc | hc
  · exact .inl (hw c hc)
  cases fraction with
  | none => simp [fractionText] at hc
  | some places =>
    rcases List.mem_cons.1 hc with rfl | hc
    · simp
    · exact .inl (hf c hc)

end Notebook
