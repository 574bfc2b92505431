import Mathlib.Data.List.Basic
import Notebook.Proofs.Text.Cutting
import Notebook.Query.Selection

/-! # Tokens of queries

Tokens that are written with a blank before each are read back one by one, whatever their literals hold: a
quote inside a literal is written twice, so the first quote that stands alone is the one that closes it.
-/

namespace Notebook

/-! ## Literals -/

theorem readLiteral?_cons {c : Char} (hc : c ≠ quoteMark) (t : Text) :
    readLiteral? (c :: t) = (readLiteral? t).map fun (inside, rest) => (c :: inside, rest) := by
  rw [readLiteral?.eq_def]
  exact if_neg hc

theorem readLiteral?_written (t : Text) {rest : Text} (hrest : rest.head? ≠ some quoteMark) :
    readLiteral? (t.flatMap doubledChar ++ quoteMark :: rest) = some (t, rest) := by
  induction t with
  | nil =>
    cases rest with
    | nil => simp [readLiteral?]
    | cons d after =>
      have hd : d ≠ quoteMark := by simpa using hrest
      simp [readLiteral?, hd]
  | cons c t ih =>
    rw [List.flatMap_cons, List.append_assoc]
    by_cases hc : c = quoteMark
    · simp [doubledChar, hc, readLiteral?, ih]
    · rw [doubledChar, if_neg hc, List.singleton_append, readLiteral?_cons hc, ih]
      rfl

theorem readToken?_literalOf (t : Text) {rest : Text} (hrest : rest.head? ≠ some quoteMark) :
    readToken? (literalOf t ++ rest) = some (.literal t, rest) := by
  simp [literalOf, readToken?, readLiteral?_written t hrest]

/-! ## Characters -/

variable {c : Char}

def isWordStart (c : Char) : Bool := c.isAlpha || c = '_'

theorem isOperatorChar_iff : isOperatorChar c = true ↔ c ∈ ['=', '!', '<', '>'] := by
  simp [isOperatorChar, or_assoc]

theorem isQueryBlank_iff : isQueryBlank c = true ↔ c ∈ [' ', '\t', '\n', '\r', '\x0c'] := by
  simp [isQueryBlank, or_assoc]

section

variable {p : Char → Bool} (hc : p c = true)

include hc

theorem not_mem_of_class (t : Text) (ht : t.all (!p ·) = true) : c ∉ t := by
  intro hmem
  simpa [hc] using List.all_eq_true.1 ht c hmem

theorem ne_quoteMark_of_class (hquote : [quoteMark].all (!p ·) = true) : c ≠ quoteMark := fun h =>
  not_mem_of_class hc _ hquote (by simp [h])

theorem isOperatorChar_eq_false_of_class (hoperators : ['=', '!', '<', '>'].all (!p ·) = true) :
    isOperatorChar c = false :=
  Bool.eq_false_iff.2 fun h => not_mem_of_class hc _ hoperators (isOperatorChar_iff.1 h)

theorem isQueryBlank_eq_false_of_class (hblanks : [' ', '\t', '\n', '\r', '\x0c'].all (!p ·) = true) :
    isQueryBlank c = false :=
  Bool.eq_false_iff.2 fun h => not_mem_of_class hc _ hblanks (isQueryBlank_iff.1 h)

end

theorem Char.isAlpha_eq_false_of_isDigit (h : c.isDigit = true) : c.isAlpha = false := by
  have hdigit : (decide ('0'.val ≤ c.val) && decide (c.val ≤ '9'.val)) = true := h
  have hupper : c.isUpper = decide ('A'.val ≤ c.val ∧ c.val ≤ 'Z'.val) := rfl
  have hlower : c.isLower = (decide ('a'.val ≤ c.val) && decide (c.val ≤ 'z'.val)) := rfl
  have hvalues : 'A'.val.toNat = 65 ∧ 'a'.val.toNat = 97 ∧ '9'.val.toNat = 57 := by decide
  show (c.isUpper || c.isLower) = false
  simp only [hupper, hlower, Bool.and_eq_true, decide_eq_true_eq, Bool.or_eq_false_iff, Bool.and_eq_false_iff,
    decide_eq_false_iff_not, UInt32.le_iff_toNat_le] at hdigit ⊢
  omega

/-! ## Numerals -/

namespace Numeral

theorem splitSign_space (t rest : Text) :
    splitSign (t ++ ' ' :: rest) = ((splitSign t).1, (splitSign t).2 ++ ' ' :: rest) := by
  cases t with
  | nil => rfl
  | cons c t =>
    unfold splitSign
    split <;> simp_all

theorem spanDigits_space (t rest : Text) :
    spanDigits (t ++ ' ' :: rest) = ((spanDigits t).1, (spanDigits t).2 ++ ' ' :: rest) := by
  induction t with
  | nil => rfl
  | cons c t ih =>
    simp only [spanDigits, Prod.mk.injEq] at ih ⊢
    by_cases hc : c.isDigit
    · simp [hc, ih]
    · simp [hc]

theorem spanFraction_space (t rest : Text) :
    spanFraction (t ++ ' ' :: rest) = ((spanFraction t).1, (spanFraction t).2 ++ ' ' :: rest) := by
  cases t with
  | nil => rfl
  | cons c t =>
    by_cases hc : c = '.'
    · subst hc
      simp [spanFraction, spanDigits_space]
    · simp [spanFraction, hc]

theorem spanExponent_space (t rest : Text) :
    spanExponent (t ++ ' ' :: rest) = ((spanExponent t).1, (spanExponent t).2 ++ ' ' :: rest) := by
  cases t with
  | nil => rfl
  | cons c t =>
    rw [List.cons_append, spanExponent, spanExponent, splitSign_space]
    by_cases hc : c = 'e' ∨ c = 'E'
    · simp only [spanDigits_space, hc, decide_eq_true_eq, Bool.or_eq_true, if_true]
      split <;> rfl
    · simp [hc]

theorem scan?_space {t : Text} {n : Numeral} (h : scan? t = some (n, [])) (rest : Text) :
    scan? (t ++ ' ' :: rest) = some (n, ' ' :: rest) := by
  unfold scan? at h ⊢
  simp only [splitSign_space, spanDigits_space, spanFraction_space, spanExponent_space] at h ⊢
  split at h
  · cases h
  · rename_i hsome
    rw [if_neg hsome]
    simp only [Option.some.injEq, Prod.mk.injEq] at h ⊢
    exact ⟨h.1, by rw [h.2, List.nil_append]⟩

def isStart (c : Char) : Bool := c = '-' || c = '+' || c = '.' || c.isDigit

theorem isStart_of_scan? {t : Text} {r : Numeral × Text} (h : scan? t = some r) :
    ∃ c rest, t = c :: rest ∧ isStart c = true := by
  cases t with
  | nil => simp [scan?, splitSign, spanDigits, spanFraction] at h
  | cons c rest =>
    refine ⟨c, rest, rfl, ?_⟩
    by_contra hc
    simp only [isStart, Bool.not_eq_true, Bool.or_eq_false_iff, decide_eq_false_iff_not, and_assoc] at hc
    obtain ⟨hminus, hplus, hpoint, hdigit⟩ := hc
    have hsign : splitSign (c :: rest) = (false, c :: rest) := by
      unfold splitSign
      split <;> simp_all
    have hfraction : spanFraction (c :: rest) = (none, c :: rest) := by
      unfold spanFraction
      split <;> simp_all
    simp [scan?, hsign, spanDigits, hdigit, hfraction] at h

theorem not_isWordStart_of_isStart (h : isStart c = true) : isWordStart c = false := by
  have hunderscore : c ≠ '_' := fun hc => not_mem_of_class h ['_'] (by decide) (by simp [hc])
  simp only [isStart, Bool.or_eq_true, decide_eq_true_eq, or_assoc] at h
  rw [isWordStart, Bool.or_eq_false_iff]
  refine ⟨?_, decide_eq_false hunderscore⟩
  rcases h with rfl | rfl | rfl | hdigit
  · decide
  · decide
  · decide
  · exact Char.isAlpha_eq_false_of_isDigit hdigit

end Numeral

/-! ## Tokens -/

namespace QueryToken

def written : QueryToken → Text
  | word t | numeral t | symbol t => t
  | literal t => literalOf t

/-- What can stand in a token of each kind. -/
def IsWritable : QueryToken → Prop
  | word t => ∃ c rest, t = c :: rest ∧ (c.isAlpha || c = '_') = true ∧ ∀ d ∈ t, isNameChar d
  | literal _ => True
  | numeral t => ∃ n, Numeral.scan? t = some (n, [])
  | symbol t => t ≠ [] ∧ ∀ c ∈ t, isOperatorChar c

def IsApart (rest : Text) : Prop := ∀ c ∈ rest.head?, c = ' '

theorem takeWhile_apart {p : Char → Bool} {t rest : Text} (ht : ∀ c ∈ t, p c) (hrest : IsApart rest)
    (hblank : p ' ' = false) : (t ++ rest).takeWhile p = t ∧ (t ++ rest).dropWhile p = rest :=
  Text.span_append ht fun c hc => hrest c hc ▸ hblank

theorem readNumeral?_apart {t rest : Text} {n : Numeral} (h : Numeral.scan? t = some (n, []))
    (hrest : IsApart rest) : readNumeral? (t ++ rest) = some (t, rest) := by
  have hscan : Numeral.scan? (t ++ rest) = some (n, rest) := by
    cases rest with
    | nil => rwa [List.append_nil]
    | cons c rest =>
      obtain rfl := hrest c rfl
      exact Numeral.scan?_space h rest
  have hname : rest.head?.any isNameChar = false := by
    cases rest with
    | nil => rfl
    | cons c rest =>
      obtain rfl := hrest c rfl
      rfl
  simp [readNumeral?, hscan, hname]

theorem readToken?_written {token : QueryToken} (h : token.IsWritable) {rest : Text} (hrest : IsApart rest) :
    readToken? (token.written ++ rest) = some (token, rest) := by
  cases token with
  | word t =>
    obtain ⟨c, t, rfl, hc, ht⟩ := h
    have hstart : isWordStart c = true := hc
    have hquote : c ≠ quoteMark := ne_quoteMark_of_class hstart (by decide)
    have hoperator : isOperatorChar c = false := isOperatorChar_eq_false_of_class hstart (by decide)
    obtain ⟨htake, hdrop⟩ := takeWhile_apart ht hrest rfl
    simp only [written, List.cons_append] at htake hdrop ⊢
    simp only [readToken?, hquote, hoperator, hc, htake, hdrop, if_true, if_false, Bool.false_eq_true]
  | literal t =>
    have hquote : rest.head? ≠ some quoteMark := fun hq => by
      have := hrest quoteMark hq
      revert this
      decide
    exact readToken?_literalOf t hquote
  | numeral t =>
    obtain ⟨n, hn⟩ := h
    -- What a numeral begins with is tried last, so it may begin no other token.
    obtain ⟨c, u, rfl, hc⟩ := Numeral.isStart_of_scan? hn
    have hnumeral := readNumeral?_apart hn hrest
    have hquote : c ≠ quoteMark := ne_quoteMark_of_class hc (by decide)
    have hoperator : isOperatorChar c = false := isOperatorChar_eq_false_of_class hc (by decide)
    have hword : (c.isAlpha || decide (c = '_')) = false := Numeral.not_isWordStart_of_isStart hc
    simp only [written, List.cons_append] at hnumeral ⊢
    simp only [readToken?, hquote, hoperator, hword, hnumeral, if_false, Bool.false_eq_true, Option.map_some]
  | symbol t =>
    obtain ⟨hne, ht⟩ := h
    obtain ⟨c, t, rfl⟩ := List.exists_cons_of_ne_nil hne
    have hc : isOperatorChar c = true := ht c (by simp)
    have hquote : c ≠ quoteMark := ne_quoteMark_of_class hc (by decide)
    obtain ⟨htake, hdrop⟩ := takeWhile_apart ht hrest rfl
    simp only [written, List.cons_append] at htake hdrop ⊢
    simp only [readToken?, hquote, hc, htake, hdrop, if_true, if_false]

theorem head_of_written {token : QueryToken} (h : token.IsWritable) :
    ∃ c t, token.written = c :: t ∧ isQueryBlank c = false := by
  cases token with
  | word t =>
    obtain ⟨c, t, rfl, hc, -⟩ := h
    have hstart : isWordStart c = true := hc
    exact ⟨c, t, rfl, isQueryBlank_eq_false_of_class hstart (by decide)⟩
  | literal t => exact ⟨quoteMark, _, rfl, rfl⟩
  | numeral t =>
    obtain ⟨n, hn⟩ := h
    obtain ⟨c, t, rfl, hc⟩ := Numeral.isStart_of_scan? hn
    exact ⟨c, t, rfl, isQueryBlank_eq_false_of_class hc (by decide)⟩
  | symbol t =>
    obtain ⟨hne, ht⟩ := h
    obtain ⟨c, t, rfl⟩ := List.exists_cons_of_ne_nil hne
    exact ⟨c, t, rfl, isQueryBlank_eq_false_of_class (ht c (by simp)) (by decide)⟩

/-! ## Texts of tokens -/

def spaced (tokens : List QueryToken) : Text := tokens.flatMap fun token => ' ' :: token.written

theorem spaced_append (tokens more : List QueryToken) : spaced (tokens ++ more) = spaced tokens ++ spaced more :=
  List.flatMap_append

theorem spaced_nil : spaced [] = [] := rfl

theorem spaced_singleton (token : QueryToken) : spaced [token] = ' ' :: token.written := by
  rw [spaced, List.flatMap_singleton]

theorem isApart_spaced (tokens : List QueryToken) : IsApart (spaced tokens) := by
  cases tokens with
  | nil => simp [IsApart, spaced]
  | cons token tokens => simp [IsApart, spaced]

theorem length_spaced {tokens : List QueryToken} (h : ∀ token ∈ tokens, token.IsWritable) :
    2 * tokens.length ≤ (spaced tokens).length := by
  induction tokens with
  | nil => exact Nat.le_refl 0
  | cons token tokens ih =>
    obtain ⟨c, t, hc, -⟩ := head_of_written (h token (by simp))
    have := ih fun other hother => h other (.tail _ hother)
    simp only [spaced, List.flatMap_cons, hc, List.length_append, List.length_cons] at this ⊢
    omega

theorem queryTokensWithin?_spaced {tokens : List QueryToken} (h : ∀ token ∈ tokens, token.IsWritable) {most : Nat}
    (hmost : tokens.length ≤ most) : queryTokensWithin? most (spaced tokens) = some tokens := by
  induction tokens generalizing most with
  | nil => cases most <;> rfl
  | cons token tokens ih =>
    obtain ⟨most, rfl⟩ : ∃ m, most = m + 1 := ⟨most - 1, by simp only [List.length_cons] at hmost; omega⟩
    have htoken := h token (by simp)
    obtain ⟨c, t, hwritten, hc⟩ := head_of_written htoken
    have hstart : (spaced (token :: tokens)).dropWhile isQueryBlank = token.written ++ spaced tokens := by
      rw [spaced, List.flatMap_cons, hwritten, List.cons_append, List.dropWhile_cons_of_pos rfl, List.cons_append,
        List.dropWhile_cons_of_neg (by simp [hc]), List.cons_append, spaced]
    have hne : token.written ++ spaced tokens ≠ [] := by simp [hwritten]
    have hrest := ih (fun other hother => h other (.tail _ hother)) (Nat.le_of_succ_le_succ hmost)
    simp only [queryTokensWithin?, hstart, if_neg hne, readToken?_written htoken (isApart_spaced tokens), hrest,
      Option.map_some]

theorem queryTokensWithin?_blank {c : Char} (hc : isQueryBlank c) (most : Nat) (t : Text) :
    queryTokensWithin? most (c :: t) = queryTokensWithin? most t := by
  cases most with
  | zero => simp [queryTokensWithin?, hc]
  | succ most => simp only [queryTokensWithin?, List.dropWhile_cons_of_pos hc]

/-- Tokens with single blanks between them are read back. -/
theorem queryTokens?_spaced {tokens : List QueryToken} (h : ∀ token ∈ tokens, token.IsWritable) {t : Text}
    (ht : ' ' :: t = spaced tokens) : queryTokens? t = some tokens := by
  have hlength := length_spaced h
  rw [← ht, List.length_cons] at hlength
  have hblank : isQueryBlank ' ' = true := rfl
  rw [queryTokens?, ← queryTokensWithin?_blank hblank, ht]
  exact queryTokensWithin?_spaced h (by omega)

end QueryToken

end Notebook
