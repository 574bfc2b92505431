import Notebook.Proofs.Query.FieldTerms
import Notebook.Proofs.Query.Reading

/-! # Terms of requests

No term gets out of its place in a query. What comes from a term stands in literals or is a finite numeral, whatever
quotes, operators and words of the language are in it, and the query is read as the conditions of the request.
-/

namespace Notebook

variable {c : Char} {t : Text}

/-! ## Characters -/

def patternSigns : Text := "(?i)^\\bs+".toList

theorem mem_literalOf (h : c ∈ literalOf t) : c = quoteMark ∨ c ∈ t := by
  simp only [literalOf, List.mem_append, List.mem_cons, List.mem_flatMap, List.not_mem_nil, or_false] at h
  rcases h with (h | ⟨d, hd, h⟩) | h
  · exact .inl h
  · unfold doubledChar at h
    split at h
    · exact .inl (by simpa using h)
    · rw [List.mem_singleton] at h
      exact .inr (h ▸ hd)
  · exact .inl h

theorem mem_of_mem_halved (h : c ∈ halved t) : c ∈ t := by
  fun_induction halved t with
  | case1 => exact h
  | case2 => exact h
  | case3 a b rest hquotes ih =>
    simp only [Bool.and_eq_true, decide_eq_true_eq] at hquotes
    rcases List.mem_cons.1 h with rfl | h
    · simp [hquotes.1]
    · simp [ih h]
  | case4 a b rest hquotes ih =>
    rcases List.mem_cons.1 h with rfl | h
    · simp
    · exact .tail _ (ih h)

theorem mem_of_mem_meant (h : c ∈ meant t) : c ∈ t := by
  unfold meant at h
  split at h
  · exact List.mem_of_mem_drop ((List.dropLast_sublist _).subset (mem_of_mem_halved h))
  · exact h

theorem mem_phraseBody (h : c ∈ phraseBody t) : c ∈ patternSigns ∨ c ∈ t := by
  induction t with
  | nil => cases h
  | cons d rest ih =>
    have hrest (h : c ∈ phraseBody rest) : c ∈ patternSigns ∨ c ∈ d :: rest := (ih h).imp_right (.tail _)
    have hblanks : blanksPattern ⊆ patternSigns := by decide
    have hbackslash : '\\' ∈ patternSigns := by decide
    rw [phraseBody] at h
    split at h
    · rcases List.mem_append.1 h with h | h
      · split at h
        · cases h
        · exact .inl (hblanks h)
      · exact hrest h
    · rcases List.mem_append.1 h with h | h
      · unfold escapedLetter at h
        split at h
        · rcases List.mem_cons.1 h with rfl | h
          · exact .inl hbackslash
          · exact .inr (by simp [List.mem_singleton.1 h])
        · exact .inr (by simp [List.mem_singleton.1 h])
      · exact hrest h

theorem mem_wordPattern (h : c ∈ wordPattern t) : c ∈ patternSigns ∨ c ∈ t := by
  have hedge {d : Option Char} (h : c ∈ edgeFor d) : c ∈ patternSigns := by
    have hsigns : "\\b".toList ⊆ patternSigns := by decide
    unfold edgeFor at h
    split at h
    · exact hsigns h
    · cases h
  simp only [wordPattern, List.mem_append] at h
  rcases h with (h | h) | h
  · exact .inl (hedge h)
  · exact mem_phraseBody h
  · exact .inl (hedge h)

theorem mem_phrasePattern (h : c ∈ phrasePattern t) : c ∈ patternSigns ∨ c ∈ t := by
  have hflag : "(?i)".toList ⊆ patternSigns := by decide
  rcases List.mem_append.1 h with h | h
  · exact .inl (hflag h)
  · exact mem_wordPattern h

theorem mem_rootPattern (h : c ∈ rootPattern t) : c ∈ patternSigns ∨ c ∈ t := by
  have hflag : "(?i)^".toList ⊆ patternSigns := by decide
  rcases List.mem_append.1 h with h | h
  · exact .inl (hflag h)
  · exact mem_wordPattern h

/-! ## Conditions from terms -/

def QueryToken.content : QueryToken → Text
  | word t | literal t | numeral t | symbol t => t

/-- A condition that says nothing but what a term says, in which numerals are finite. -/
structure Condition.IsFrom (condition : Condition) (term : Text) : Prop where
  signs_or_term : ∀ token ∈ condition.given, ∀ c ∈ token.content, c ∈ patternSigns ∨ c ∈ term
  finite : condition.IsFinite

variable {term : Text} {condition : Condition}

theorem pathCondition?_eq_some (h : pathCondition? term = some condition) :
    ∃ words, words ⊆ term ∧ (condition = .path (phrasePattern words) ∨ condition = .path (rootPattern words)) := by
  unfold pathCondition? at h
  split at h
  · cases h
  · rename_i d rest hterm
    have hmem : d :: rest ⊆ term := fun e he => Text.mem_of_mem_trim (hterm ▸ he)
    split at h
    · dsimp only at h
      split at h
      · cases h
      · cases h
        exact ⟨_, fun c hc => hmem (.tail _ (Text.mem_of_mem_trim hc)), .inr rfl⟩
    · cases h
      exact ⟨_, hmem, .inl rfl⟩

theorem textCondition?_eq_some (h : textCondition? term = some condition) :
    condition = .text (phrasePattern term.trim) := by
  unfold textCondition? at h
  split at h <;> cases h
  rfl

theorem tagCondition?_eq_some (h : tagCondition? term = some condition) : condition = .tag (meant term.trim) := by
  unfold tagCondition? at h
  split at h <;> cases h
  rfl

theorem isFrom_of_given {words pattern : Text} (hgiven : condition.given = [.literal pattern])
    (hpattern : ∀ c ∈ pattern, c ∈ patternSigns ∨ c ∈ words) (hwords : words ⊆ term) (hfinite : condition.IsFinite) :
    condition.IsFrom term := by
  refine ⟨?_, hfinite⟩
  simp only [hgiven, List.mem_singleton, forall_eq, QueryToken.content]
  exact fun c hc => (hpattern c hc).imp_right fun hc => hwords hc

theorem isFrom_pathCondition? (h : pathCondition? term = some condition) : condition.IsFrom term := by
  obtain ⟨words, hwords, rfl | rfl⟩ := pathCondition?_eq_some h
  · exact isFrom_of_given rfl (fun _ => mem_phrasePattern) hwords trivial
  · exact isFrom_of_given rfl (fun _ => mem_rootPattern) hwords trivial

theorem isFrom_textCondition? (h : textCondition? term = some condition) : condition.IsFrom term := by
  obtain rfl := textCondition?_eq_some h
  exact isFrom_of_given rfl (fun _ => mem_phrasePattern) (fun _ => Text.mem_of_mem_trim) trivial

theorem isFrom_tagCondition? (h : tagCondition? term = some condition) : condition.IsFrom term := by
  obtain rfl := tagCondition?_eq_some h
  exact isFrom_of_given rfl (fun _ hc => .inr (mem_of_mem_meant hc)) (fun _ => Text.mem_of_mem_trim) trivial

/-! ## Conditions from terms for fields -/

theorem content_operandOf {value : Text} (h : c ∈ (operandOf value).token.content) : c ∈ value := by
  unfold operandOf at h
  split at h
  · exact h
  · exact mem_of_mem_meant h

theorem isFinite_operandOf (name : Text) (op : Comparison) (value : Text) :
    (Condition.compare name op (operandOf value)).IsFinite := by
  unfold operandOf
  split
  · rename_i x hx
    exact ⟨x, hx⟩
  · trivial

theorem isFrom_comparisonTerm (h : comparisonTerm term = .condition condition) : condition.IsFrom term := by
  rcases comparisonTerm_cases term with hterm | ⟨name, op, value, hname, hvalue, hterm⟩ | hterm <;> rw [hterm] at h
  · cases h
  · cases h
    refine ⟨?_, isFinite_operandOf _ op value⟩
    simp only [Condition.given, List.forall_mem_cons, List.not_mem_nil, false_implies, implies_true, and_true,
      QueryToken.content]
    exact ⟨fun c hc => .inr (hname (mem_of_mem_meant hc)), fun c hc => .inr (hvalue (content_operandOf hc))⟩
  · cases h

theorem isFrom_matchingTerm {word : Text} {pattern : Text → Text}
    (hpattern : ∀ value, ∀ c ∈ pattern value, c ∈ patternSigns ∨ c ∈ value)
    (h : matchingTerm word pattern term = .condition condition) : condition.IsFrom term := by
  rcases matchingTerm_cases word pattern term with hterm | ⟨name, value, hname, hvalue, hterm⟩ <;> rw [hterm] at h
  · cases h
  · cases h
    refine ⟨?_, trivial⟩
    simp only [Condition.given, List.forall_mem_cons, List.not_mem_nil, false_implies, implies_true, and_true,
      QueryToken.content]
    refine ⟨fun c hc => .inr (hname (mem_of_mem_meant hc)), fun c hc => ?_⟩
    exact (hpattern _ c (mem_of_mem_meant hc)).imp_right fun hc => hvalue hc

theorem isFrom_fieldTerm (h : fieldTerm term = .condition condition) : condition.IsFrom term := by
  rcases fieldTerm_eq_condition h with h | h | h
  · exact isFrom_comparisonTerm h
  · exact isFrom_matchingTerm (fun _ _ hc => .inr hc) h
  · exact isFrom_matchingTerm (fun _ _ hc => mem_phrasePattern hc) h

/-! ## Conditions of requests -/

namespace Request

variable {r : Request}

def terms (r : Request) : List Text := r.pathTerms ++ r.texts ++ r.fields ++ r.tags

theorem mem_conditions : condition ∈ r.conditions ↔
    (∃ term ∈ r.pathTerms, pathCondition? term = some condition) ∨
    (∃ term ∈ r.texts, textCondition? term = some condition) ∨
    (∃ term ∈ r.fields, fieldTerm term = .condition condition) ∨
    ∃ term ∈ r.tags, tagCondition? term = some condition := by
  have hfield (f : FieldTerm) : f.condition? = some condition ↔ f = .condition condition := by
    cases f <;> simp [FieldTerm.condition?]
  simp only [conditions, List.mem_append, List.mem_filterMap, List.mem_map, exists_exists_and_eq_and, hfield, or_assoc]

theorem isFrom_conditions (h : condition ∈ r.conditions) : ∃ term ∈ r.terms, condition.IsFrom term := by
  rcases mem_conditions.1 h with ⟨term, hterm, h⟩ | ⟨term, hterm, h⟩ | ⟨term, hterm, h⟩ | ⟨term, hterm, h⟩
  · exact ⟨term, by simp [terms, hterm], isFrom_pathCondition? h⟩
  · exact ⟨term, by simp [terms, hterm], isFrom_textCondition? h⟩
  · exact ⟨term, by simp [terms, hterm], isFrom_fieldTerm h⟩
  · exact ⟨term, by simp [terms, hterm], isFrom_tagCondition? h⟩

theorem isFinite_of_mem_conditions (h : condition ∈ r.conditions) : condition.IsFinite := by
  obtain ⟨term, -, hfrom⟩ := isFrom_conditions h
  exact hfrom.finite

def IsNulFree (r : Request) : Prop := ∀ term ∈ r.terms, '\x00' ∉ term

instance (r : Request) : Decidable r.IsNulFree := inferInstanceAs (Decidable (∀ term ∈ r.terms, '\x00' ∉ term))

theorem nul_not_mem_query (h : r.IsNulFree) : '\x00' ∉ r.query := by
  intro hnul
  have hblank : '\x00' ≠ ' ' := by decide
  obtain ⟨token, htoken, hc⟩ := (mem_queryText hnul).resolve_left hblank
  have hplanned := isPlanned_chainTokens (fun _ => isFinite_of_mem_conditions) token htoken
  -- Literals and numerals say what the terms say, and the words and operators are known.
  have hgiven : token.isGiven → '\x00' ∉ token.content := by
    intro hisGiven hnul
    have hmem : token ∈ r.conditions.flatMap Condition.given := by
      rw [← filter_chainTokens]
      exact List.mem_filter.2 ⟨htoken, hisGiven⟩
    obtain ⟨condition, hcondition, htoken⟩ := List.mem_flatMap.1 hmem
    obtain ⟨term, hterm, hfrom⟩ := isFrom_conditions hcondition
    have hsigns : '\x00' ∉ patternSigns := by decide
    exact h term hterm ((hfrom.signs_or_term token htoken _ hnul).resolve_left hsigns)
  cases token with
  | word t =>
    have hwords : ∀ t ∈ keywords, '\x00' ∉ t := by decide
    exact hwords t hplanned hc
  | literal t =>
    have hquote : '\x00' ≠ quoteMark := by decide
    exact hgiven rfl ((mem_literalOf hc).resolve_left hquote)
  | numeral t => exact hgiven rfl hc
  | symbol t =>
    obtain ⟨op, rfl⟩ := hplanned
    revert hc
    cases op <;> decide

/-- A query is read as the conditions of its request, one selection for each. What comes from the terms stands in
literals and finite numerals, and the other tokens are words and operators of the language. -/
theorem query_keeps_structure (r : Request) (h : r.IsNulFree) :
    readStatement? r.query = some (r.conditions.map Condition.selection) ∧
      ∃ tokens, queryTokens? r.query = some tokens ∧
        tokens.filter QueryToken.isGiven = r.conditions.flatMap Condition.given ∧
        ∀ token ∈ tokens, token.IsPlanned := by
  have hfinite : ∀ condition ∈ r.conditions, condition.IsFinite := fun _ => isFinite_of_mem_conditions
  refine ⟨readStatement?_queryText hfinite (nul_not_mem_query h), chainTokens r.conditions, ?_, ?_, ?_⟩
  · exact queryTokens?_queryText hfinite
  · exact filter_chainTokens r.conditions
  · exact isPlanned_chainTokens hfinite

def crafty : Request :=
  { Request.blank with
    paths := ["^' INTERSECT SELECT id FROM records --".toList]
    texts := ["it''s' OR 1".toList]
    tags := ["'a''' OR name = 'b'".toList]
    fields := ["n' AND value >= +1e3".toList, "'q' = ' AND value <> '''".toList, "x re ' OR ''='".toList] }

theorem query_keeps_structure_crafty :
    crafty.IsNulFree ∧ crafty.conditions.length = 6 ∧
      readStatement? crafty.query = some (crafty.conditions.map Condition.selection) ∧
      ∃ tokens, queryTokens? crafty.query = some tokens ∧
        tokens.filter QueryToken.isGiven = crafty.conditions.flatMap Condition.given ∧
        ∀ token ∈ tokens, token.IsPlanned :=
  ⟨by decide, by decide, query_keeps_structure crafty (by decide)⟩

end Request

end Notebook
