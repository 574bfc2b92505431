import Notebook.Proofs.Pattern.PlainWords
import Notebook.Proofs.Store.Conjunction
import Notebook.Proofs.Store.QueryFaults

/-! # What can go wrong in a search

A search for terms fails for one of a few reasons. Of the expressions that it tries, those for phrases fail only by
the room that they take.
-/

namespace Notebook

/-! ## Expressions of conditions -/

theorem meant_phrasePattern (words : Text) : meant (phrasePattern words) = phrasePattern words := by
  have hunwrapped : isWrapped (phrasePattern words) = false := by simp [isWrapped, phrasePattern, quoteMark]
  rw [meant, hunwrapped]
  rfl

theorem patterns_of_mem_conditions {r : Request} {c : Condition} {pattern : Text} (hc : c ∈ r.conditions)
    (hpattern : pattern ∈ c.patterns) :
    (∃ words, pattern = phrasePattern words ∨ pattern = rootPattern words) ∨
      ∃ term ∈ r.fields, fieldTerm term = .condition c ∧ patternTerm term = .condition c := by
  rcases Request.mem_conditions.1 hc with ⟨term, -, h⟩ | ⟨term, -, h⟩ | ⟨term, hterm, h⟩ | ⟨term, -, h⟩
  · obtain ⟨words, -, rfl | rfl⟩ := pathCondition?_eq_some h
    · exact .inl ⟨words, .inl (List.mem_singleton.1 hpattern)⟩
    · exact .inl ⟨words, .inr (List.mem_singleton.1 hpattern)⟩
  · obtain rfl := textCondition?_eq_some h
    exact .inl ⟨_, .inl (List.mem_singleton.1 hpattern)⟩
  · rcases fieldTerm_eq_condition h with hform | hform | hform
    · -- A comparison has no expression.
      rcases comparisonTerm_cases term with heq | ⟨_, _, _, -, -, heq⟩ | heq <;> rw [heq] at hform <;> cases hform
      cases hpattern
    · exact .inr ⟨term, hterm, h, hform⟩
    · rcases matchingTerm_cases " has ".toList phrasePattern term with heq | ⟨_, words, -, -, heq⟩ <;>
        rw [phraseTerm, heq] at hform <;> cases hform
      rw [Condition.patterns, List.mem_singleton, meant_phrasePattern] at hpattern
      exact .inl ⟨words, .inl hpattern⟩
  · obtain rfl := tagCondition?_eq_some h
    cases hpattern

/-! ## Conditions that cannot be tried -/

theorem expressionTest?_of_matchingRows [Engine] {α : Type} {pattern : Text} {cell : α → Cell} {rows : List α}
    {e : Failure} (h : matchingRows pattern cell rows = .error e) : expressionTest? pattern = none := by
  unfold matchingRows at h
  split at h
  · cases h
  · split at h
    · assumption
    · cases h

namespace Store

variable {s : Store} {hold : Hold} {r : Request} {e : Failure}

theorem selected_selection_eq_error [Engine] {c : Condition} (h : s.selected c.selection = .error e) :
    ∃ pattern ∈ c.patterns, expressionTest? pattern = none := by
  cases c with
  | path pattern =>
    exact ⟨pattern, by simp [Condition.patterns], expressionTest?_of_matchingRows (map_eq_error.1 h)⟩
  | text pattern =>
    exact ⟨pattern, by simp [Condition.patterns], expressionTest?_of_matchingRows (map_eq_error.1 h)⟩
  | tag name => cases h
  | compare name op value => cases h
  | matching name pattern =>
    exact ⟨pattern, by simp [Condition.patterns], expressionTest?_of_matchingRows (map_eq_error.1 h)⟩

/-! ## Searches -/

/-- What can keep a search for terms from being answered. -/
inductive SearchFault [Engine] (s : Store) (hold : Hold) (r : Request) : Prop
  /-- The store is held by another program. -/
  | held : ¬ hold.Allows r → SearchFault s hold r
  | nul : '\x00' ∈ r.query → SearchFault s hold r
  | tooMany : greatestSelections < r.conditions.length → SearchFault s hold r
  /-- Every condition was tried, and the rows found are no notes. -/
  | rows (cells : List Cell) (e : Failure) : s.selectedByAll (r.conditions.map Condition.selection) = .ok cells →
      (asIds cells >>= s.notesOf) = .error e → SearchFault s hold r
  | room (c : Condition) (words : Text) : c ∈ r.conditions →
      (phrasePattern words ∈ c.patterns ∧ (phraseExpression words).isTooLarge ∨
        rootPattern words ∈ c.patterns ∧ (rootExpression words).isTooLarge) → SearchFault s hold r
  | expression (term : Text) (c : Condition) (pattern : Text) : term ∈ r.fields →
      fieldTerm term = .condition c → patternTerm term = .condition c → pattern ∈ c.patterns →
      expressionTest? pattern = none → SearchFault s hold r

section

variable [Engine]

theorem SearchFault.of_selectedByAll (h : s.selectedByAll (r.conditions.map Condition.selection) = .error e) :
    SearchFault s hold r := by
  obtain ⟨sel, hsel, herror⟩ := exists_of_selectedByAll_eq_error h
  obtain ⟨c, hc, rfl⟩ := List.mem_map.1 hsel
  obtain ⟨pattern, hpattern, hread⟩ := selected_selection_eq_error herror
  rcases patterns_of_mem_conditions hc hpattern with ⟨words, rfl | rfl⟩ | ⟨term, hterm, hfield, hmatching⟩
  · rw [expressionTest?_phrasePattern, ite_eq_left_iff] at hread
    exact .room c words hc (.inl ⟨hpattern, by simpa using hread⟩)
  · rw [expressionTest?_rootPattern, ite_eq_left_iff] at hread
    exact .room c words hc (.inr ⟨hpattern, by simpa using hread⟩)
  · exact .expression term c pattern hterm hfield hmatching hpattern hread

theorem search_eq_error (hterms : r.savedQuery = none) (h : (s.search hold r).result = .error e) :
    SearchFault s hold r := by
  by_cases hhold : hold.Allows r
  · by_cases hnul : '\x00' ∈ r.query
    · exact .nul hnul
    · by_cases hfew : r.conditions.length ≤ greatestSelections
      · rw [search_result hterms hhold.2] at h
        -- Without a condition nothing is asked, which does not fail.
        have hne : r.conditions ≠ [] := by
          intro hnil
          have hempty : s.runQuery hold r.query = .ok .empty := by
            rw [Request.query, hnil]
            rfl
          rw [hempty] at h
          cases h
        rw [runQuery_selections hne hfew hnul hhold.1] at h
        rcases bind_eq_error.1 h with hselected | ⟨cells, hcells, hnotes⟩
        · exact .of_selectedByAll hselected
        · exact .rows cells e hcells hnotes
      · exact .tooMany (Nat.not_le.1 hfew)
  · exact .held hhold

end

end Store

/-! ## Plain words -/

/-- An expression for plain words is the flag for any case, the start if it is for a root, and the items of the words,
in any case and with any blanks for theirs. So a search for plain words fails for other reasons than its expressions,
unless one takes too much room or a term gives its own. -/
theorem plain_words_are_no_syntax [Engine] :
    (∀ words : Text,
      patternPieces? (phrasePattern words) = some (.flags [('i', true)] ::
        wordItems [.set .blank 0, .repeated 1 none] .letter (.place .edge) words) ∧
      patternPieces? (rootPattern words) = some (.flags [('i', true)] :: .lineStart ::
        wordItems [.set .blank 0, .repeated 1 none] .letter (.place .edge) words) ∧
      (Pattern.read? (phrasePattern words) =
        if (sequence (.empty :: wordPatterns words)).isTooLarge then none
        else some (sequence (.empty :: wordPatterns words))) ∧
      Pattern.read? (rootPattern words) =
        if (sequence (.empty :: .place .textStart :: wordPatterns words)).isTooLarge then none
        else some (sequence (.empty :: .place .textStart :: wordPatterns words))) ∧
    ∀ (s : Store) (hold : Hold) (r : Request) (e : Failure),
      r.savedQuery = none → (s.search hold r).result = .error e → s.SearchFault hold r := by
  refine ⟨fun words => ⟨?_, ?_, ?_, ?_⟩, fun s hold r e => Store.search_eq_error⟩
  · rw [patternPieces?_phrasePattern, wordPieces_eq]
  · rw [patternPieces?_rootPattern, wordPieces_eq]
  · rw [read?_phrasePattern, phraseExpression, map_wordParts]
  · rw [read?_rootPattern, rootExpression, map_wordParts]

def unclosed : Request := { Request.blank with texts := ["(sun".toList], fields := ["guide re (".toList] }

theorem expressionTest?_unclosed [Engine] : expressionTest? ['('] = none := by
  have hopen : readPiece? (['('] ++ []) = some (.openKept none, []) := rfl
  have hpieces : patternPieces? ['('] = (patternPieces? []).map (.openKept none :: ·) :=
    patternPieces?_of_readPiece? hopen (by simp)
  rw [patternPieces?.eq_def []] at hpieces
  rw [expressionTest?_of_pieces hpieces, Pattern.read?, hpieces]
  rfl

theorem search_unclosed : (Store.trips.search .free unclosed).result = .error .database := by
  have hconditions : unclosed.conditions = [.text (phrasePattern "(sun".toList), .matching "guide".toList ['(']] := by
    decide +kernel
  have hwords : expressionTest? (phrasePattern "(sun".toList) ≠ none := by
    have hroom : (phraseExpression "(sun".toList).isTooLarge = false := by cbv
    rw [expressionTest?_phrasePattern, hroom]
    simp
  have hrows : Store.trips.named "guide".toList ≠ [] := by decide +kernel
  generalize Store.trips = s at hrows ⊢
  have hguide : s.selected (Condition.matching "guide".toList ['(']).selection = .error .database := by
    simp only [Store.selected, Condition.selection, Condition.table, Store.tagsMeeting, matchingRows, if_neg hrows,
      expressionTest?_unclosed]
    rfl
  rw [Store.search_result rfl (by simp [unclosed, Request.blank]), Store.runQuery_selections (by simp [hconditions])
    (by simp [hconditions, greatestSelections]) (Request.nul_not_mem_query (by decide)) rfl, hconditions]
  cases hsun : s.selected (Condition.text (phrasePattern "(sun".toList)).selection with
  | error e =>
    obtain ⟨pattern, hpattern, hnone⟩ := Store.selected_selection_eq_error hsun
    rw [Condition.patterns, List.mem_singleton] at hpattern
    exact absurd (hpattern ▸ hnone) hwords
  | ok cells =>
    have hrest : [(Condition.matching "guide".toList ['(']).selection].foldlM
        (fun cells sel => return Store.intersection cells (← s.selected sel)) cells = .error .database := by
      rw [List.foldlM_cons, hguide]
      rfl
    exact bind_eq_error.2 (.inl (bind_eq_error.2 (.inr ⟨cells, hsun, hrest⟩)))

theorem plain_words_are_no_syntax_unclosed :
    unclosed.savedQuery = none ∧ (Store.trips.search .free unclosed).result = .error .database ∧
      Store.trips.SearchFault .free unclosed := by
  have hterms : unclosed.savedQuery = none := rfl
  obtain ⟨-, hfault⟩ := plain_words_are_no_syntax
  exact ⟨hterms, search_unclosed, hfault _ _ _ _ hterms search_unclosed⟩

end Notebook
