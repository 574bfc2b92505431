import Notebook.Proofs.Query.Terms
import Notebook.Store.Searching

/-! # What statements do to the store

A statement that only reads leaves the store as it is. The query of a request is such a one, so a search can
change the tables in two ways only: it saves its terms, or it runs a saved text that writes.
-/

namespace Notebook

theorem isBlank_queryText {conditions : List Condition} (hne : conditions ≠ []) :
    (queryText conditions).isBlank = false := by
  obtain ⟨c, rest, rfl⟩ := List.exists_cons_of_ne_nil hne
  obtain ⟨more, hmore⟩ : ∃ more, chainTokens (c :: rest) = keyword "SELECT" :: more := by
    cases rest <;> exact ⟨_, rfl⟩
  have hquery : queryText (c :: rest) = "SELECT".toList ++ QueryToken.spaced more := by
    have hspaced := spaced_chainTokens c rest
    rw [hmore] at hspaced
    exact (List.cons.inj hspaced).2
  have hselect : Text.isBlank "SELECT".toList = false := by decide
  rw [hquery, Text.isBlank, List.all_append, ← Text.isBlank, hselect, Bool.false_and]

/-! ## Texts that only read -/

section

variable [Engine]

/-- The query of a request is understood whatever else the engine understands. -/
theorem Statement.ofText_query {r : Request} (hne : r.conditions ≠ []) :
    Statement.ofText r.query =
      if '\x00' ∈ r.query ∨ greatestSelections < r.conditions.length then .refused
      else .reading fun s => (s.selectedByAll (r.conditions.map Condition.selection)).toOption := by
  by_cases hnul : '\x00' ∈ r.query
  · rw [ofText, readQuery?, if_pos hnul]
    simp [hnul]
  · have hstatement : (readStatement? r.query).isSome := by
      rw [Request.query, readStatement?_queryText (fun _ => Request.isFinite_of_mem_conditions) hnul]
      rfl
    have hquery := readQuery?_queryText (fun _ => Request.isFinite_of_mem_conditions) hnul hne
    rw [← Request.query] at hquery
    rw [ofText, hquery]
    by_cases hfew : r.conditions.length ≤ greatestSelections
    · simp [hnul, hfew]
    · simp [hstatement, hfew, Nat.not_le.1 hfew]

end

namespace Store

variable [Engine] {s : Store} {hold : Hold}

end Store

end Notebook
