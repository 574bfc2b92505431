import Notebook.Proofs.Query.Reading
import Notebook.Proofs.Store.Contents
import Notebook.Store.Searching

/-! # Records that meet conditions

A query for conditions selects the ids of the records that meet all of them. Different conditions may be met by
different rows of tags.
-/

namespace Notebook

/-! ## Conditions of records -/

def Cell.IsMatched [Engine] (c : Cell) (pattern : Text) : Prop :=
  ∃ test t, expressionTest? pattern = some test ∧ c.searched? = some t ∧ test t

def Condition.patterns : Condition → List Text
  | path pattern | text pattern | matching _ pattern => [pattern]
  | tag _ | compare _ _ _ => []

theorem expressionTest?_of_pieces [Engine] {pattern : Text} {pieces : List PatternPiece}
    (h : patternPieces? pattern = some pieces) :
    expressionTest? pattern = (Pattern.read? pattern).map Pattern.isIn := by
  rw [expressionTest?, h]
  rfl

namespace Store

/-- A record meets a condition by its own cells or by one of its rows of tags. -/
def Meets [Engine] (s : Store) (r : RecordRow) : Condition → Prop
  | .path pattern => r.path.IsMatched pattern
  | .text pattern => r.text.IsMatched pattern
  | .tag name => ∃ row ∈ s.tagsOf r.id, row.name = .text name ∧ row.value = .null
  | .compare name op value =>
    ∃ row ∈ s.tagsOf r.id, row.name = .text name ∧ row.value.meets op (.ofOperand value)
  | .matching name pattern => ∃ row ∈ s.tagsOf r.id, row.name = .text name ∧ row.value.IsMatched pattern

variable {s : Store}

/-! ## One selection -/

section

variable [Engine] {pattern : Text} {test : Text → Bool} (htest : expressionTest? pattern = some test)

include htest

theorem matchingRows_eq {α : Type} (cell : α → Cell) (rows : List α) :
    matchingRows pattern cell rows = .ok (rows.filter fun row => (cell row).searched?.any test) := by
  unfold matchingRows
  split
  · rename_i hnil
    rw [hnil]
    rfl
  · rw [htest]

theorem isMatched_iff (c : Cell) : c.IsMatched pattern ↔ c.searched?.any test = true := by
  simp only [Cell.IsMatched, htest, Option.some.injEq, Option.any_eq_true]
  constructor
  · rintro ⟨_, t, rfl, ht, hmatch⟩
    exact ⟨t, ht, hmatch⟩
  · rintro ⟨t, ht, hmatch⟩
    exact ⟨test, t, rfl, ht, hmatch⟩

end

theorem mem_tagsOf {row : TagRow} {id : Int} : row ∈ s.tagsOf id ↔ row ∈ s.tags ∧ row.id = .integer id := by
  simp [tagsOf, isOf_iff]

theorem exists_ids {cells : List Cell} (h : ∀ c ∈ cells, ∃ id, c = .integer id) :
    ∃ ids : List Int, cells = ids.map .integer := by
  induction cells with
  | nil => exact ⟨[], rfl⟩
  | cons c rest ih =>
    obtain ⟨id, rfl⟩ := h c (by simp)
    obtain ⟨ids, rfl⟩ := ih fun c hc => h c (.tail _ hc)
    exact ⟨id :: ids, rfl⟩

theorem integer_mem_map {id : Int} {ids : List Int} : Cell.integer id ∈ ids.map Cell.integer ↔ id ∈ ids :=
  List.mem_map_of_injective fun _ _ h => Cell.integer.inj h

theorem ids_of_records [Engine] {pattern : Text} (hpattern : (expressionTest? pattern).isSome) (cell : RecordRow → Cell) :
    ∃ rows, matchingRows pattern cell s.records = .ok rows ∧
      ∀ r ∈ s.records, r.id ∈ rows.map (·.id) ↔ (cell r).IsMatched pattern := by
  obtain ⟨test, htest⟩ := Option.isSome_iff_exists.1 hpattern
  refine ⟨_, matchingRows_eq htest cell s.records, fun r hr => ?_⟩
  rw [isMatched_iff htest, List.mem_map]
  constructor
  · rintro ⟨other, hother, hid⟩
    obtain ⟨hmem, hmatch⟩ := List.mem_filter.1 hother
    rwa [← eq_of_id_eq hmem hr hid]
  · exact fun hmatch => ⟨r, List.mem_filter.2 ⟨hr, hmatch⟩, rfl⟩

theorem mem_ids_of_named {name : Text} {test : TagRow → Bool} {ids : List Int}
    (h : ((s.named name).filter test).map (·.id) = ids.map .integer) (id : Int) :
    id ∈ ids ↔ ∃ row ∈ s.tagsOf id, row.name = .text name ∧ test row = true := by
  have hmem {row : TagRow} : row ∈ (s.named name).filter test ↔
      row ∈ s.tags ∧ row.name = .text name ∧ test row = true := by
    simp [named, and_comm]
  rw [← integer_mem_map, ← h, List.mem_map]
  constructor
  · rintro ⟨row, hrow, hid⟩
    obtain ⟨htags, hname, htest⟩ := hmem.1 hrow
    exact ⟨row, mem_tagsOf.2 ⟨htags, hid⟩, hname, htest⟩
  · rintro ⟨row, hrow, hname, htest⟩
    obtain ⟨htags, hid⟩ := mem_tagsOf.1 hrow
    exact ⟨row, hmem.2 ⟨htags, hname, htest⟩, hid⟩

theorem ids_of_named (hids : ∀ row ∈ s.tags, ∃ id, row.id = .integer id) (name : Text) (test : TagRow → Bool) :
    ∃ ids : List Int, ((s.named name).filter test).map (·.id) = ids.map .integer ∧
      ∀ id, id ∈ ids ↔ ∃ row ∈ s.tagsOf id, row.name = .text name ∧ test row = true := by
  obtain ⟨ids, heq⟩ : ∃ ids : List Int, ((s.named name).filter test).map (·.id) = ids.map .integer := by
    refine exists_ids fun c hc => ?_
    obtain ⟨row, hrow, rfl⟩ := List.mem_map.1 hc
    exact hids row (List.mem_filter.1 (List.mem_filter.1 hrow).1).1
  exact ⟨ids, heq, mem_ids_of_named heq⟩

section

variable [Engine] (hids : ∀ row ∈ s.tags, ∃ id, row.id = .integer id)

include hids

/-- One selection selects the ids of the records that meet its condition, besides ids of no record. -/
theorem selected_selection {c : Condition} (hc : ∀ pattern ∈ c.patterns, (expressionTest? pattern).isSome) :
    ∃ ids : List Int, s.selected c.selection = .ok (ids.map .integer) ∧
      ∀ r ∈ s.records, r.id ∈ ids ↔ s.Meets r c := by
  cases c with
  | path pattern =>
    obtain ⟨rows, hrows, hmem⟩ := ids_of_records (hc pattern (by simp [Condition.patterns])) RecordRow.path
    refine ⟨rows.map (·.id), ?_, hmem⟩
    simp [selected, Condition.selection, Condition.table, recordsMeeting, hrows, Except.map, recordCell]
  | text pattern =>
    obtain ⟨rows, hrows, hmem⟩ := ids_of_records (hc pattern (by simp [Condition.patterns])) RecordRow.text
    refine ⟨rows.map (·.id), ?_, hmem⟩
    simp [selected, Condition.selection, Condition.table, recordsMeeting, hrows, Except.map, recordCell]
  | tag name =>
    obtain ⟨ids, hselected, hmem⟩ := ids_of_named hids name fun row => row.value = .null
    refine ⟨ids, ?_, fun r _ => ?_⟩
    · rw [← hselected]
      rfl
    · simp [hmem, Meets]
  | compare name op value =>
    obtain ⟨ids, hselected, hmem⟩ := ids_of_named hids name fun row => row.value.meets op (.ofOperand value)
    refine ⟨ids, ?_, fun r _ => ?_⟩
    · rw [← hselected]
      rfl
    · rw [hmem, Meets]
  | matching name pattern =>
    obtain ⟨test, htest⟩ := Option.isSome_iff_exists.1 (hc pattern (by simp [Condition.patterns]))
    obtain ⟨ids, hselected, hmem⟩ := ids_of_named hids name fun row => row.value.searched?.any test
    refine ⟨ids, ?_, fun r _ => ?_⟩
    · rw [← hselected]
      simp only [selected, Condition.selection, Condition.table, tagsMeeting, matchingRows_eq htest]
      rfl
    · simp only [hmem, Meets, isMatched_iff htest]

/-! ## All selections -/

omit [Engine] hids in
theorem intersection_integers (a b : List Int) :
    intersection (a.map .integer) (b.map .integer) = (a.filter (· ∈ b)).map .integer := by
  have hsame (id : Int) : ((b.map Cell.integer).any (Cell.same (.integer id))) = decide (id ∈ b) := by
    rw [Bool.eq_iff_iff, List.any_map, List.any_eq_true, decide_eq_true_eq]
    simp [Cell.same, Cell.order]
  rw [intersection, List.filter_map]
  congr 1
  exact List.filter_congr fun id _ => hsame id

theorem foldlM_selections {conditions : List Condition}
    (hconditions : ∀ c ∈ conditions, ∀ pattern ∈ c.patterns, (expressionTest? pattern).isSome) (before : List Int) :
    ∃ ids : List Int, (conditions.map Condition.selection).foldlM
        (fun cells sel => return intersection cells (← s.selected sel)) (before.map .integer) = .ok (ids.map .integer) ∧
      ∀ r ∈ s.records, r.id ∈ ids ↔ r.id ∈ before ∧ ∀ c ∈ conditions, s.Meets r c := by
  -- What is left after some conditions are the ids of the records that meet those.
  induction conditions generalizing before with
  | nil => exact ⟨before, rfl, by simp⟩
  | cons c rest ih =>
    obtain ⟨next, hselected, hnext⟩ := selected_selection hids (hconditions c (by simp))
    obtain ⟨ids, hfold, hmem⟩ := ih (fun d hd => hconditions d (.tail _ hd)) (before.filter (· ∈ next))
    refine ⟨ids, ?_, fun r hr => ?_⟩
    · rw [List.map_cons, List.foldlM_cons, hselected, ← hfold, ← intersection_integers]
      rfl
    · rw [hmem r hr, List.mem_filter, List.forall_mem_cons, decide_eq_true_eq, hnext r hr, and_assoc]

theorem selectedByAll_selections {conditions : List Condition} (hne : conditions ≠ [])
    (hconditions : ∀ c ∈ conditions, ∀ pattern ∈ c.patterns, (expressionTest? pattern).isSome) :
    ∃ ids : List Int, s.selectedByAll (conditions.map Condition.selection) = .ok (ids.map .integer) ∧
      ∀ r ∈ s.records, r.id ∈ ids ↔ ∀ c ∈ conditions, s.Meets r c := by
  obtain ⟨c, rest, rfl⟩ := List.exists_cons_of_ne_nil hne
  obtain ⟨first, hselected, hfirst⟩ := selected_selection hids (hconditions c (by simp))
  obtain ⟨ids, hfold, hmem⟩ := foldlM_selections hids (fun d hd => hconditions d (.tail _ hd)) first
  refine ⟨ids, ?_, fun r hr => ?_⟩
  · rw [← hfold, List.map_cons, selectedByAll, hselected]
    rfl
  · rw [hmem r hr, hfirst r hr, List.forall_mem_cons]

end

theorem asIds_integers (ids : List Int) : asIds (ids.map .integer) = .ok ids := by
  induction ids with
  | nil => rfl
  | cons id rest ih =>
    rw [asIds] at ih ⊢
    rw [List.map_cons, List.mapM_cons, ih]
    rfl

end Store

end Notebook
