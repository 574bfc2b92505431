import Notebook.Proofs.Query.Tokens
import Notebook.Proofs.Text.Blanks
import Notebook.Query.Request

/-! # How terms for fields are read

Three forms are tried on a term, one after the other. A term of one of them is read as it was written: the first
operator, or the first word between blanks, is where it is cut, whatever comes after it.
-/

namespace Notebook

/-! ## Texts with blanks around them -/

namespace Text

structure IsGiven (t : Text) : Prop where
  trimmed : t.trim = t
  ne_nil : t ≠ []

def HasNoOperator (t : Text) : Prop := ∀ c ∈ t, isOperatorChar c = false

instance (t : Text) : Decidable t.HasNoOperator :=
  decidable_of_iff (t.all (!isOperatorChar ·)) (by simp [HasNoOperator])

structure IsSpaced (t spaced : Text) : Prop extends IsGiven t where
  between : ∃ front back : Text, front.isBlank ∧ back.isBlank ∧ spaced = front ++ t ++ back

variable {t spaced : Text}

theorem IsSpaced.trim_eq (h : IsSpaced t spaced) : spaced.trim = t := by
  obtain ⟨front, back, hfront, hback, rfl⟩ := h.between
  rw [trim_append_blanks (List.all_eq_true.1 hback), trim_blanks_append (List.all_eq_true.1 hfront), h.trimmed]

theorem IsSpaced.trim_ne_nil (h : IsSpaced t spaced) : spaced.trim ≠ [] := by
  rw [h.trim_eq]
  exact h.ne_nil

theorem hasNoOperator_of_isBlank (h : t.isBlank) : t.HasNoOperator := fun c hc =>
  isOperatorChar_eq_false_of_class (List.all_eq_true.1 h c hc) (by decide)

theorem IsSpaced.hasNoOperator (h : IsSpaced t spaced) (ht : t.HasNoOperator) : spaced.HasNoOperator := by
  obtain ⟨front, back, hfront, hback, rfl⟩ := h.between
  simp only [HasNoOperator, List.forall_mem_append]
  exact ⟨⟨hasNoOperator_of_isBlank hfront, ht⟩, hasNoOperator_of_isBlank hback⟩

theorem IsSpaced.head? (h : IsSpaced t spaced) (ht : ∀ c ∈ t.head?, isOperatorChar c = false) :
    ∀ c ∈ spaced.head?, isOperatorChar c = false := by
  obtain ⟨front, back, hfront, -, rfl⟩ := h.between
  obtain ⟨d, rest, rfl⟩ := List.exists_cons_of_ne_nil h.ne_nil
  intro c hc
  -- What comes first is a blank, if there is one in front, and no blank is an operator.
  cases front with
  | nil => exact ht c hc
  | cons e front =>
    obtain rfl : e = c := by simpa using hc
    exact hasNoOperator_of_isBlank hfront e (by simp)

theorem trim_append_ne_nil (h : t.trim ≠ []) (rest : Text) : trim (t ++ rest) ≠ [] := by
  intro hnil
  have hblank := trim_eq_nil_iff.1 hnil
  exact h (trim_eq_nil_iff.2 fun c hc => hblank c (by simp [hc]))

end Text

/-! ## Words in any case -/

def IsSaid (word said : Text) : Prop := List.Forall₂ (fun c d => sameLetter c d = true) word said

/-- Whether a word stands in a text, in any case, right behind a part in front of it. -/
def StandsBehind (front word t : Text) : Prop := ∃ said after, IsSaid word said ∧ t = front ++ said ++ after

/-- The parts of a text that is cut at the first place where a word stands in it, in any case. -/
structure IsFirstCut (word front said after : Text) : Prop where
  isSaid : IsSaid word said
  first : ∀ earlier, StandsBehind earlier word (front ++ said ++ after) → front.length ≤ earlier.length

variable {word said t front after : Text}

theorem IsSaid.hasNoOperator (h : IsSaid word said)
    (hword : word.all (fun c => ['=', '!', '<', '>'].all fun d => !sameLetter c d) = true) : said.HasNoOperator := by
  induction h with
  | nil => exact fun d hd => absurd hd List.not_mem_nil
  | @cons c d word said hsame _ ih =>
    rw [List.all_cons, Bool.and_eq_true] at hword
    have hd : isOperatorChar d = false := isOperatorChar_eq_false_of_class hsame hword.1
    exact List.forall_mem_cons.2 ⟨hd, ih hword.2⟩

theorem afterAnyCase?_eq_some : afterAnyCase? word t = some after ↔ ∃ said, IsSaid word said ∧ t = said ++ after := by
  fun_induction afterAnyCase? word t with
  | case1 t =>
    constructor
    · intro h
      exact ⟨[], .nil, Option.some.inj h⟩
    · rintro ⟨_, _ | _, rfl⟩
      rfl
  | case2 c word =>
    simp only [reduceCtorEq, false_iff]
    rintro ⟨_, _ | _, heq⟩
    cases heq
  | case3 c word d t hsame ih =>
    rw [ih]
    constructor
    · rintro ⟨said, hsaid, rfl⟩
      exact ⟨d :: said, .cons hsame hsaid, rfl⟩
    · rintro ⟨_, _ | ⟨-, hsaid⟩, heq⟩
      obtain ⟨rfl, rfl⟩ := List.cons.inj heq
      exact ⟨_, hsaid, rfl⟩
  | case4 c word d t hsame =>
    simp only [reduceCtorEq, false_iff]
    rintro ⟨_, _ | ⟨hfirst, -⟩, heq⟩
    obtain ⟨rfl, -⟩ := List.cons.inj heq
    exact hsame hfirst

theorem standsBehind_nil : StandsBehind [] word t ↔ afterAnyCase? word t ≠ none := by
  simp only [StandsBehind, Option.ne_none_iff_exists', afterAnyCase?_eq_some, List.nil_append]
  exact exists_comm

theorem standsBehind_cons {c : Char} : StandsBehind front word (c :: t) ↔
    (front = [] ∧ afterAnyCase? word (c :: t) ≠ none) ∨ ∃ rest, front = c :: rest ∧ StandsBehind rest word t := by
  cases front with
  | nil => simp [standsBehind_nil]
  | cons d front =>
    simp only [StandsBehind, List.cons_append, List.cons.injEq, reduceCtorEq, false_and, false_or]
    constructor
    · rintro ⟨said, after, hsaid, rfl, rfl⟩
      exact ⟨front, ⟨rfl, rfl⟩, said, after, hsaid, rfl⟩
    · rintro ⟨_, ⟨rfl, rfl⟩, said, after, hsaid, rfl⟩
      exact ⟨said, after, hsaid, rfl, rfl⟩

theorem cutAtWord?_eq_none : cutAtWord? word t = none ↔ ∀ front, ¬ StandsBehind front word t := by
  induction t with
  | nil =>
    rw [cutAtWord?, Option.map_eq_none_iff]
    constructor
    · rintro hnone front ⟨said, after, hsaid, heq⟩
      obtain ⟨rfl, rfl, rfl⟩ : front = [] ∧ said = [] ∧ after = [] := by simpa using heq.symm
      exact standsBehind_nil.1 ⟨[], [], hsaid, rfl⟩ hnone
    · exact fun h => not_not.1 fun hne => h [] (standsBehind_nil.2 hne)
  | cons c t ih =>
    rw [cutAtWord?]
    cases hstart : afterAnyCase? word (c :: t) with
    | some rest =>
      have hstands : StandsBehind [] word (c :: t) := standsBehind_nil.2 (by simp [hstart])
      simp only [reduceCtorEq, false_iff]
      exact fun h => h [] hstands
    | none =>
      simp only [Option.map_eq_none_iff, ih, standsBehind_cons, hstart, ne_eq, not_true_eq_false, and_false, false_or]
      constructor
      · rintro h _ ⟨front, rfl, hfront⟩
        exact h front hfront
      · exact fun h front hfront => h (c :: front) ⟨front, rfl, hfront⟩

theorem cutAtWord?_eq_some :
    cutAtWord? word t = some (front, after) ↔ ∃ said, IsFirstCut word front said after ∧ t = front ++ said ++ after := by
  constructor
  · intro h
    induction t generalizing front with
    | nil =>
      obtain ⟨rest, hrest, heq⟩ := Option.map_eq_some_iff.1 h
      obtain ⟨rfl, rfl⟩ := Prod.mk.inj heq
      obtain ⟨said, hsaid, ht⟩ := afterAnyCase?_eq_some.1 hrest
      exact ⟨said, ⟨hsaid, fun _ _ => Nat.zero_le _⟩, ht⟩
    | cons c t ih =>
      rw [cutAtWord?] at h
      cases hstart : afterAnyCase? word (c :: t) with
      | some rest =>
        simp only [hstart, Option.some.injEq, Prod.mk.injEq] at h
        obtain ⟨rfl, rfl⟩ := h
        obtain ⟨said, hsaid, ht⟩ := afterAnyCase?_eq_some.1 hstart
        exact ⟨said, ⟨hsaid, fun _ _ => Nat.zero_le _⟩, ht⟩
      | none =>
        simp only [hstart, Option.map_eq_some_iff, Prod.mk.injEq] at h
        obtain ⟨⟨before, rest⟩, hcut, rfl, rfl⟩ := h
        obtain ⟨said, hfirst, rfl⟩ := ih hcut
        refine ⟨said, ⟨hfirst.isSaid, fun earlier hearlier => ?_⟩, rfl⟩
        rcases standsBehind_cons.1 hearlier with ⟨-, hne⟩ | ⟨rest, rfl, hlater⟩
        · exact absurd hstart hne
        · exact Nat.succ_le_succ (hfirst.first rest hlater)
  · -- The word stands nowhere before the end of the front, so every character of it is passed over.
    rintro ⟨said, ⟨hsaid, hfirst⟩, rfl⟩
    induction front with
    | nil =>
      have hafter : afterAnyCase? word (said ++ after) = some after := afterAnyCase?_eq_some.2 ⟨said, hsaid, rfl⟩
      rw [List.nil_append]
      cases hwhole : said ++ after with
      | nil => rw [cutAtWord?, ← hwhole, hafter, Option.map_some]
      | cons c rest => rw [cutAtWord?, ← hwhole, hafter]
    | cons c front ih =>
      have hlate : afterAnyCase? word (c :: (front ++ said ++ after)) = none := by
        by_contra hne
        have := hfirst [] (standsBehind_nil.2 hne)
        simp at this
      have hrest := ih fun earlier hearlier =>
        Nat.le_of_succ_le_succ (hfirst (c :: earlier) (standsBehind_cons.2 (.inr ⟨earlier, rfl, hearlier⟩)))
      rw [List.cons_append, List.cons_append, cutAtWord?, hlate]
      simp only [hrest, Option.map_some]

theorem isFirstCut_of_cutAtWord? (h : cutAtWord? word (front ++ said ++ after) = some (front, after)) :
    IsFirstCut word front said after := by
  obtain ⟨other, hcut, heq⟩ := cutAtWord?_eq_some.1 h
  obtain rfl : said = other := List.append_cancel_left (List.append_cancel_right heq)
  exact hcut

theorem IsFirstCut.hasNoOperator (h : IsFirstCut word front said after) (hfront : front.HasNoOperator)
    (hafter : after.HasNoOperator)
    (hword : word.all (fun c => ['=', '!', '<', '>'].all fun d => !sameLetter c d) = true) :
    (front ++ (said ++ after)).HasNoOperator :=
  List.forall_mem_append.2 ⟨hfront, List.forall_mem_append.2 ⟨h.isSaid.hasNoOperator hword, hafter⟩⟩

/-! ## The three forms -/

section

variable {pattern : Text → Text} {symbol value : Text}

theorem matchingTerm_firstCut (pattern : Text → Text) (hcut : IsFirstCut word front said after)
    (hfront : front.trim ≠ []) (hafter : after.trim ≠ []) : matchingTerm word pattern (front ++ said ++ after) =
      .condition (.matching (meant front.trim) (meant (pattern after.trim))) := by
  rw [matchingTerm, cutAtWord?_eq_some.2 ⟨said, hcut, rfl⟩]
  simp [hfront, hafter]

theorem matchingTerm_without (h : ∀ front, ¬ StandsBehind front word t) : matchingTerm word pattern t = .other := by
  rw [matchingTerm, cutAtWord?_eq_none.2 h]

theorem comparisonTerm_without (h : t.HasNoOperator) : comparisonTerm t = .other := by
  have hplain : ∀ c ∈ t, (!isOperatorChar c) = true := fun c hc => by simp [h c hc]
  have hdrop := (Text.span_append hplain (b := []) (by simp)).2
  rw [List.append_nil] at hdrop
  simp [comparisonTerm, hdrop]

theorem comparisonTerm_run (hfront : front.HasNoOperator) (hne : symbol ≠ [])
    (hsymbol : ∀ c ∈ symbol, isOperatorChar c = true) (hvalue : ∀ c ∈ value.head?, isOperatorChar c = false)
    (hname : front.trim ≠ []) (hblank : value.trim ≠ []) :
    comparisonTerm (front ++ symbol ++ value) =
      match Comparison.ofSymbol? symbol with
      | some op => .condition (.compare (meant front.trim) op (operandOf value.trim))
      | none => .refused ("BAD FIELD: OPERATOR NOT SUPPORTED: ".toList ++ (front ++ symbol ++ value)) := by
  have hplain : ∀ c ∈ front, (!isOperatorChar c) = true := fun c hc => by simp [hfront c hc]
  have hstop : ∀ c ∈ (symbol ++ value).head?, (!isOperatorChar c) = false := by
    intro c hc
    obtain ⟨d, rest, rfl⟩ := List.exists_cons_of_ne_nil hne
    obtain rfl : d = c := by simpa using hc
    simp [hsymbol d]
  obtain ⟨htake, hdrop⟩ := Text.span_append hplain hstop
  obtain ⟨htakeSymbol, hdropSymbol⟩ := Text.span_append hsymbol hvalue
  rw [comparisonTerm, List.append_assoc]
  cases hop : Comparison.ofSymbol? symbol <;>
    simp only [htake, hdrop, htakeSymbol, hdropSymbol, hne, hname, hblank, hop, decide_false, Bool.or_false,
      Bool.false_eq_true, if_false]

end

namespace Comparison

theorem ofSymbol?_symbol (op : Comparison) : ofSymbol? op.symbol = some op := by
  cases op <;> rfl

theorem ofSymbol?_eq_none {symbol : Text} (h : ∀ op : Comparison, symbol ≠ op.symbol) : ofSymbol? symbol = none :=
  List.find?_eq_none.2 fun op _ => by simpa using (h op).symm

theorem symbol_ne_nil (op : Comparison) : op.symbol ≠ [] := by
  cases op <;> decide

theorem isOperatorChar_of_mem_symbol (op : Comparison) : ∀ c ∈ op.symbol, isOperatorChar c = true := by
  cases op <;> simp [symbol, isOperatorChar]

end Comparison

/-! ## What each form comes to -/

theorem comparisonTerm_cases (term : Text) :
    comparisonTerm term = .other ∨
    (∃ name op value, name ⊆ term ∧ value ⊆ term ∧
      comparisonTerm term = .condition (.compare (meant name) op (operandOf value))) ∨
    comparisonTerm term = .refused ("BAD FIELD: OPERATOR NOT SUPPORTED: ".toList ++ term) := by
  unfold comparisonTerm
  dsimp only
  split
  · exact .inl rfl
  · split
    · rename_i op _
      refine .inr (.inl ⟨_, op, _, fun c hc => ?_, fun c hc => ?_, rfl⟩)
      · exact (List.takeWhile_sublist _).subset (Text.mem_of_mem_trim hc)
      · exact (List.dropWhile_sublist _).subset ((List.dropWhile_sublist _).subset (Text.mem_of_mem_trim hc))
    · exact .inr (.inr rfl)

theorem matchingTerm_cases (word : Text) (pattern : Text → Text) (term : Text) :
    matchingTerm word pattern term = .other ∨
    ∃ name value, name ⊆ term ∧ value ⊆ term ∧
      matchingTerm word pattern term = .condition (.matching (meant name) (meant (pattern value))) := by
  unfold matchingTerm
  split
  · exact .inl rfl
  · rename_i front after hcut
    obtain ⟨said, -, rfl⟩ := cutAtWord?_eq_some.1 hcut
    split
    · exact .inl rfl
    · refine .inr ⟨_, _, fun c hc => ?_, fun c hc => ?_, rfl⟩
      · simp [Text.mem_of_mem_trim hc]
      · simp [Text.mem_of_mem_trim hc]

theorem FieldTerm.orElse_eq_condition {first next : FieldTerm} {c : Condition}
    (h : first.orElse next = .condition c) : first = .condition c ∨ next = .condition c := by
  cases first with
  | other => exact .inr h
  | condition d => exact .inl h
  | refused warning => cases h

theorem fieldTerm_eq_condition {c : Condition} (h : fieldTerm t = .condition c) :
    comparisonTerm t = .condition c ∨ patternTerm t = .condition c ∨ phraseTerm t = .condition c := by
  unfold fieldTerm at h
  split at h
  · cases h
  · refine (FieldTerm.orElse_eq_condition h).imp_right fun h => ?_
    refine (FieldTerm.orElse_eq_condition h).imp_right fun h => ?_
    exact (FieldTerm.orElse_eq_condition h).resolve_right (by simp)

/-! ## Whole terms -/

theorem fieldTerm_of_front (hfront : front.trim ≠ []) (rest : Text) :
    fieldTerm (front ++ rest) =
      (comparisonTerm (front ++ rest)).orElse ((patternTerm (front ++ rest)).orElse ((phraseTerm (front ++ rest)).orElse
        (.refused ("BAD FIELD: OPERATOR NOT FOUND: ".toList ++ (front ++ rest))))) := by
  rw [fieldTerm, if_neg (Text.trim_append_ne_nil hfront rest)]

theorem fieldTerm_compare (op : Comparison) {value : Text} (hfront : front.HasNoOperator)
    (hvalue : ∀ c ∈ value.head?, isOperatorChar c = false) (hname : front.trim ≠ []) (hblank : value.trim ≠ []) :
    fieldTerm (front ++ op.symbol ++ value) =
      .condition (.compare (meant front.trim) op (operandOf value.trim)) := by
  have hcomparison := comparisonTerm_run hfront op.symbol_ne_nil op.isOperatorChar_of_mem_symbol hvalue hname hblank
  rw [op.ofSymbol?_symbol, List.append_assoc] at hcomparison
  rw [List.append_assoc, fieldTerm_of_front hname, hcomparison, FieldTerm.orElse]
  simp

theorem fieldTerm_unsupported {symbol value : Text} (hfront : front.HasNoOperator) (hne : symbol ≠ [])
    (hsymbol : ∀ c ∈ symbol, isOperatorChar c = true) (hvalue : ∀ c ∈ value.head?, isOperatorChar c = false)
    (hname : front.trim ≠ []) (hblank : value.trim ≠ []) (hnone : ∀ op : Comparison, symbol ≠ op.symbol) :
    fieldTerm (front ++ symbol ++ value) =
      .refused ("BAD FIELD: OPERATOR NOT SUPPORTED: ".toList ++ (front ++ symbol ++ value)) := by
  have hcomparison := comparisonTerm_run hfront hne hsymbol hvalue hname hblank
  rw [Comparison.ofSymbol?_eq_none hnone, List.append_assoc] at hcomparison
  rw [List.append_assoc, fieldTerm_of_front hname, hcomparison, FieldTerm.orElse]
  simp

theorem fieldTerm_pattern (hfront : front.HasNoOperator) (hafter : after.HasNoOperator)
    (hcut : IsFirstCut " re ".toList front said after) (hname : front.trim ≠ []) (hblank : after.trim ≠ []) :
    fieldTerm (front ++ said ++ after) = .condition (.matching (meant front.trim) (meant after.trim)) := by
  have hplain := hcut.hasNoOperator hfront hafter (by decide)
  have hmatching := matchingTerm_firstCut id hcut hname hblank
  rw [List.append_assoc] at hmatching ⊢
  rw [fieldTerm_of_front hname, comparisonTerm_without hplain, patternTerm, hmatching]
  rfl

theorem fieldTerm_phrase (hfront : front.HasNoOperator) (hafter : after.HasNoOperator)
    (hcut : IsFirstCut " has ".toList front said after)
    (hnone : ∀ earlier, ¬ StandsBehind earlier " re ".toList (front ++ said ++ after))
    (hname : front.trim ≠ []) (hblank : after.trim ≠ []) :
    fieldTerm (front ++ said ++ after) =
      .condition (.matching (meant front.trim) (meant (phrasePattern after.trim))) := by
  have hplain := hcut.hasNoOperator hfront hafter (by decide)
  have hmatching := matchingTerm_firstCut phrasePattern hcut hname hblank
  -- The form with a pattern is tried first, and does not apply.
  rw [List.append_assoc] at hmatching hnone ⊢
  rw [fieldTerm_of_front hname, comparisonTerm_without hplain, patternTerm, matchingTerm_without hnone, phraseTerm,
    hmatching]
  rfl

/-! ## Terms as written -/

/-- Whether a term is taken as a condition on tags, written in a given way. -/
def IsTakenAs (term predicate : Text) : Prop :=
  ∃ c, fieldTerm term = .condition c ∧ c.table = .tags ∧ c.written = predicate

def comparedAs (value : Text) : Text := if (readNumber? value).isSome then value else escapeLiteral value

theorem written_operandOf (value : Text) : (operandOf value).written = comparedAs value := by
  unfold operandOf comparedAs
  cases readNumber? value <;> rfl

theorem written_compare (name : Text) (op : Comparison) (value : Text) :
    (Condition.compare (meant name) op (operandOf value)).written =
      "name = ".toList ++ escapeLiteral name ++ " AND value ".toList ++ op.symbol ++ ' ' :: comparedAs value := by
  dsimp only [Condition.written, escapeLiteral]
  rw [written_operandOf]

/-- A term of one of the three forms is taken as it was written, whatever operators or words its value holds: a
pattern as it is and a phrase as its expression, in literals as all texts. A term whose first operator is none of the
known ones is refused. -/
theorem field_terms_are_read_as_written :
    (∀ (op : Comparison) (name value front back : Text), name.HasNoOperator →
      (∀ c ∈ value.head?, isOperatorChar c = false) → name.IsSpaced front → value.IsSpaced back →
      IsTakenAs (front ++ op.symbol ++ back)
        ("name = ".toList ++ escapeLiteral name ++ " AND value ".toList ++ op.symbol ++ ' ' :: comparedAs value)) ∧
    (∀ name value front said back : Text, name.HasNoOperator → value.HasNoOperator →
      name.IsSpaced front → value.IsSpaced back → IsFirstCut " re ".toList front said back →
      IsTakenAs (front ++ said ++ back)
        ("name = ".toList ++ escapeLiteral name ++ " AND value REGEXP ".toList ++ escapeLiteral value)) ∧
    (∀ name value front said back : Text, name.HasNoOperator → value.HasNoOperator →
      name.IsSpaced front → value.IsSpaced back → IsFirstCut " has ".toList front said back →
      (∀ earlier, ¬ StandsBehind earlier " re ".toList (front ++ said ++ back)) →
      IsTakenAs (front ++ said ++ back)
        ("name = ".toList ++ escapeLiteral name ++ " AND value REGEXP ".toList
          ++ escapeLiteral (phrasePattern value))) ∧
    (∀ front symbol back : Text, front.HasNoOperator → symbol ≠ [] → (∀ c ∈ symbol, isOperatorChar c = true) →
      (∀ c ∈ back.head?, isOperatorChar c = false) → front.trim ≠ [] → back.trim ≠ [] →
      (∀ op : Comparison, symbol ≠ op.symbol) →
      fieldTerm (front ++ symbol ++ back) =
        .refused ("BAD FIELD: OPERATOR NOT SUPPORTED: ".toList ++ (front ++ symbol ++ back))) := by
  refine ⟨?comparison, ?pattern, ?phrase, ?unsupported⟩
  case comparison =>
    intro op name value front back hname hvalue hfront hback
    have hterm := fieldTerm_compare op (hfront.hasNoOperator hname) (hback.head? hvalue) hfront.trim_ne_nil
      hback.trim_ne_nil
    rw [hfront.trim_eq, hback.trim_eq] at hterm
    exact ⟨_, hterm, rfl, written_compare name op value⟩
  case pattern =>
    intro name value front said back hname hvalue hfront hback hcut
    have hterm := fieldTerm_pattern (hfront.hasNoOperator hname) (hback.hasNoOperator hvalue) hcut
      hfront.trim_ne_nil hback.trim_ne_nil
    rw [hfront.trim_eq, hback.trim_eq] at hterm
    exact ⟨_, hterm, rfl, rfl⟩
  case phrase =>
    intro name value front said back hname hvalue hfront hback hcut hnone
    have hterm := fieldTerm_phrase (hfront.hasNoOperator hname) (hback.hasNoOperator hvalue) hcut hnone
      hfront.trim_ne_nil hback.trim_ne_nil
    rw [hfront.trim_eq, hback.trim_eq] at hterm
    exact ⟨_, hterm, rfl, rfl⟩
  case unsupported =>
    intro front symbol back hfront hne hsymbol hvalue hname hblank hnone
    exact fieldTerm_unsupported hfront hne hsymbol hvalue hname hblank hnone

theorem field_terms_are_read_as_written_shelf :
    IsTakenAs " formula = a<b re c ".toList "name = \x27formula\x27 AND value = \x27a<b re c\x27".toList ∧
      IsTakenAs "author RE ^isaac has x".toList
        "name = \x27author\x27 AND value REGEXP \x27^isaac has x\x27".toList ∧
      IsTakenAs "title has a  b".toList
        "name = \x27title\x27 AND value REGEXP \x27(?i)\\ba\\s+b\\b\x27".toList ∧
      fieldTerm "year=>1980".toList = .refused "BAD FIELD: OPERATOR NOT SUPPORTED: year=>1980".toList := by
  obtain ⟨hcomparison, hpattern, hphrase, hunsupported⟩ := field_terms_are_read_as_written
  have hwhole (t : Text) (ht : t.trim = t) (hne : t ≠ []) : t.IsSpaced t :=
    ⟨⟨ht, hne⟩, [], [], rfl, rfl, (List.append_nil t).symm⟩
  refine ⟨?comparison, ?pattern, ?phrase, ?unsupported⟩
  case comparison =>
    have hterm := hcomparison .equal "formula".toList "a<b re c".toList " formula ".toList " a<b re c ".toList
      (by decide) (fun _ h => Option.some.inj h ▸ rfl) ⟨⟨by decide, by decide⟩, [' '], [' '], rfl, rfl, by decide⟩
      ⟨⟨by decide, by decide⟩, [' '], [' '], rfl, rfl, by decide⟩
    exact (congrArg₂ IsTakenAs (by decide) (by decide)).mp hterm
  case pattern =>
    have hterm := hpattern "author".toList "^isaac has x".toList "author".toList " RE ".toList "^isaac has x".toList
      (by decide) (by decide) (hwhole _ (by decide) (by decide)) (hwhole _ (by decide) (by decide))
      (isFirstCut_of_cutAtWord? (by decide))
    exact (congrArg₂ IsTakenAs (by decide) (by decide)).mp hterm
  case phrase =>
    have hterm := hphrase "title".toList "a  b".toList "title".toList " has ".toList "a  b".toList
      (by decide) (by decide) (hwhole _ (by decide) (by decide)) (hwhole _ (by decide) (by decide))
      (isFirstCut_of_cutAtWord? (by decide)) (cutAtWord?_eq_none.1 (by decide))
    exact (congrArg₂ IsTakenAs (by decide) (by decide)).mp hterm
  case unsupported =>
    have hterm := hunsupported "year".toList "=>".toList "1980".toList (by decide) (by decide)
      (List.all_eq_true.1 (by decide)) (fun _ h => Option.some.inj h ▸ rfl) (by decide) (by decide)
      (by rintro (_ | _) <;> decide)
    rw [show "year=>1980".toList = "year".toList ++ "=>".toList ++ "1980".toList by decide, hterm]
    rfl

end Notebook
