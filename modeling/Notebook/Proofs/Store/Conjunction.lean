import Notebook.Proofs.Pattern.Phrases
import Notebook.Proofs.Store.QueryFaults
import Notebook.Proofs.Store.Reassembly
import Notebook.Proofs.Store.Selecting
import Notebook.Proofs.Store.Statements
import Notebook.Store.Rows

/-! # Searching for all conditions

A search finds the notes of the records that meet every condition of its request, and no others. So a further
condition can only leave notes out, and neither the order of the terms nor their number counts.
-/

namespace Notebook

/-! ## Requests that can be answered -/

/-- A request with conditions that are not too many, and of which every expression is taken. -/
structure Request.IsAnswerable [Engine] (r : Request) : Prop where
  ofTerms : r.savedQuery = none
  notNone : r.conditions ≠ []
  few : r.conditions.length ≤ greatestSelections
  nulFree : '\x00' ∉ r.query
  readable : ∀ c ∈ r.conditions, ∀ pattern ∈ c.patterns, (expressionTest? pattern).isSome

def Hold.Allows (hold : Hold) (r : Request) : Prop := hold.canRead ∧ (r.saveAs.isSome → hold.canWrite)

structure Request.IsWithin (r other : Request) : Prop where
  paths : r.pathTerms ⊆ other.pathTerms
  texts : r.texts ⊆ other.texts
  fields : r.fields ⊆ other.fields
  tags : r.tags ⊆ other.tags

theorem Request.IsWithin.conditions {r other : Request} (h : r.IsWithin other) : r.conditions ⊆ other.conditions := by
  intro c hc
  rw [Request.mem_conditions] at hc ⊢
  rcases hc with ⟨term, hterm, hc⟩ | ⟨term, hterm, hc⟩ | ⟨term, hterm, hc⟩ | ⟨term, hterm, hc⟩
  · exact .inl ⟨term, h.paths hterm, hc⟩
  · exact .inr (.inl ⟨term, h.texts hterm, hc⟩)
  · exact .inr (.inr (.inl ⟨term, h.fields hterm, hc⟩))
  · exact .inr (.inr (.inr ⟨term, h.tags hterm, hc⟩))

section

variable [Engine]

theorem expressionTest?_phrasePattern (t : Text) : expressionTest? (phrasePattern t) =
    if (phraseExpression t).isTooLarge then none else some (phraseExpression t).isIn := by
  rw [expressionTest?_of_pieces (patternPieces?_phrasePattern t), read?_phrasePattern]
  split <;> rfl

theorem expressionTest?_rootPattern (t : Text) : expressionTest? (rootPattern t) =
    if (rootExpression t).isTooLarge then none else some (rootExpression t).isIn := by
  rw [expressionTest?_of_pieces (patternPieces?_rootPattern t), read?_rootPattern]
  split <;> rfl

end

namespace Store

variable {s : Store} {hold : Hold} {r : Request}

section

variable [Engine]

theorem runQuery_selections (hne : r.conditions ≠ []) (hfew : r.conditions.length ≤ greatestSelections)
    (hnul : '\x00' ∉ r.query) (hread : hold.canRead) : s.runQuery hold r.query
      = (do s.notesOf (← asIds (← s.selectedByAll (r.conditions.map Condition.selection)))) := by
  have hblank : r.query.isBlank = false := isBlank_queryText hne
  have hstatement := Statement.ofText_query hne
  rw [if_neg (by simp [hnul, hfew])] at hstatement
  simp only [runQuery, perform, run, hblank, hstatement, elim_selectedByAll, Hold.reading, hread, Bool.false_eq_true,
    if_true, if_false]

theorem runQuery_withConfig (s : Store) (hold : Hold) (r : Request) (config : List ConfigRow) :
    ({ s with config := config } : Store).runQuery hold r.query = s.runQuery hold r.query := by
  unfold runQuery perform
  split
  · rfl
  · rename_i hblank
    have hne : r.conditions ≠ [] := by
      intro hnil
      rw [Request.query, hnil] at hblank
      exact hblank rfl
    rw [Statement.ofText_query hne]
    by_cases hrefused : '\x00' ∈ r.query ∨ greatestSelections < r.conditions.length
    · rw [if_pos hrefused]
      rfl
    · rw [if_neg hrefused]
      rfl

theorem search_result (hterms : r.savedQuery = none) (hsave : r.saveAs.isSome → hold.canWrite) :
    (s.search hold r).result = s.runQuery hold r.query := by
  unfold search
  rw [hterms]
  cases hname : r.saveAs with
  | none => rfl
  | some name =>
    have hwrite : hold.canWrite = true := hsave (by rw [hname]; rfl)
    dsimp only
    split
    · rfl
    · have hsaved : (s.saveQuery hold name r.query).result = .ok () ∧
          (s.saveQuery hold name r.query).store.runQuery hold r.query = s.runQuery hold r.query := by
        unfold saveQuery
        split
        · exact ⟨rfl, rfl⟩
        · rw [if_neg (by simp [hwrite])]
          exact ⟨rfl, runQuery_withConfig s hold r _⟩
      rw [hsaved.1]
      exact hsaved.2

theorem search_ids (hs : s.IsReadable) (hr : r.IsAnswerable) (hhold : hold.Allows r) :
    ∃ ids found, (s.search hold r).result = .ok found ∧ s.notesOf ids = .ok found ∧
      ∀ row ∈ s.records, row.id ∈ ids ↔ ∀ c ∈ r.conditions, s.Meets row c := by
  obtain ⟨ids, hselected, hids⟩ := selectedByAll_selections hs.id hr.notNone hr.readable
  obtain ⟨found, hfound⟩ := notesOf_succeeds hs ids
  refine ⟨ids, found, ?_, hfound, hids⟩
  rw [search_result hr.ofTerms hhold.2, runQuery_selections hr.notNone hr.few hr.nulFree hhold.1, hselected]
  exact bind_eq_ok.2 ⟨_, rfl, bind_eq_ok.2 ⟨ids, asIds_integers ids, hfound⟩⟩

/-! ## Notes of the records that meet conditions -/

end

section

variable (hpaths : s.records.Pairwise fun a b => a.path ≠ b.path)

include hpaths

variable [Engine]

end

def trips : Store :=
  let s := Store.fresh.withRecord (.integer 1) (.text "Trips/Rome".toList) (.text "sun\n".toList)
  let s := s.withRecord (.integer 2) (.text "Trips/Oslo".toList) .null
  let s := (s.withTag (.integer 1) (.text "far".toList) .null).withTag (.integer 2) (.text "far".toList) .null
  let s := s.withTag (.integer 1) (.text "year".toList) (.real (.ofNat 1951))
  let s := s.withTag (.integer 1) (.text "guide".toList) (.text "Anna of Rome".toList)
  let s := s.withTag (.integer 2) (.text "year".toList) (.text "soon".toList)
  s.withTag (.integer 9) (.text "far".toList) .null

end Store

end Notebook
