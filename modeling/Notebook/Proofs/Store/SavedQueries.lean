import Mathlib.Data.Set.List
import Notebook.Proofs.Families
import Notebook.Proofs.Store.QueryFaults
import Notebook.Proofs.Store.Soundness
import Notebook.Proofs.Text.ByteOrder

/-! # Saved queries are a map

Nothing keeps two settings from having one name. Still the saved queries of a session are a map from trimmed
names to queries, as long as none of them that is run writes: what was saved under a name is removed before
anything else is saved under it, and every operation trims the names that it is given.
-/

namespace Notebook

/-! ## Changes -/

namespace QueryChange

end QueryChange

namespace Operation

end Operation

namespace Store

def queryRow (name query : Text) : ConfigRow := ⟨.text queryCategory, .text name, .text query⟩

theorem isQueryNamed_iff {name : Text} {row : ConfigRow} :
    isQueryNamed name row ↔ row.category = .text queryCategory ∧ row.name = .text name := by
  simp [isQueryNamed, isQueryRow]

@[simp] theorem isQueryNamed_queryRow (name other query : Text) :
    isQueryNamed name (queryRow other query) = decide (other = name) := by
  simp [isQueryNamed, isQueryRow, queryRow]

end Store

open Store

namespace QueryChange

end QueryChange

namespace Store

end Store

/-! ## Changes by operations -/

namespace Kept

section

variable [Engine] {k : Kept} {op : Operation}

end

end Kept

/-! ## The map of a session -/

namespace Store

/-- Under every name the first row, if any, is that of the map. -/
def Holds (s : Store) (m : Text → Option Text) : Prop :=
  ∀ name, s.config.find? (isQueryNamed name) = (m name).map (queryRow name)

end Store

namespace Kept

section

variable [Engine] {k : Kept} {m : Text → Option Text}

end

end Kept

/-! ## What is answered -/

namespace Store

variable {s : Store} {m : Text → Option Text}

theorem Holds.savedQuery? (h : s.Holds m) (hold : Hold) (name : Text) :
    s.savedQuery? hold name = hold.reading (.ok (m name.trim)) := by
  rw [Store.savedQuery?, h name.trim]
  cases m name.trim <;> rfl

theorem Holds.removeQuery (h : s.Holds m) (hold : Hold) (name : Text) :
    (s.removeQuery hold name).result =
      if hold.canWrite then .ok (m name.trim).isSome else .error hold.writeFailure := by
  have hsome : s.config.any (isQueryNamed name.trim) = (m name.trim).isSome := by
    rw [← List.isSome_find?, h name.trim, Option.isSome_map]
  unfold Store.removeQuery
  cases hold.canWrite <;> simp [hsome]

theorem mapM_asText (names : List Text) : (names.map Cell.text).mapM Cell.asText = .ok names := by
  have h : Cell.asText ∘ Cell.text = (fun t => pure (id t) : Text → Except Failure Text) := rfl
  rw [List.mapM_map, h, List.mapM_pure, List.map_id]
  rfl

theorem IsSound.exists_names (h : s.IsSound) : ∃ names : List Text,
    (s.config.filter isQueryRow).map ConfigRow.name = names.map Cell.text ∧ names.Nodup ∧
      ∀ name, name ∈ names ↔ (s.config.find? (isQueryNamed name)).isSome := by
  have hcategory : ∀ row ∈ s.config, row.category = .text queryCategory := fun row hrow => by
    obtain ⟨name, query, rfl, -⟩ := h.queries row hrow
    rfl
  obtain ⟨names, hnames⟩ : s.config.map ConfigRow.name ∈ Set.range (List.map Cell.text) := by
    rw [Set.range_list_map]
    intro cell hcell
    obtain ⟨row, hrow, rfl⟩ := List.mem_map.1 hcell
    obtain ⟨name, query, rfl, -⟩ := h.queries row hrow
    exact ⟨name, rfl⟩
  have hall : s.config.filter isQueryRow = s.config :=
    List.filter_eq_self.2 fun row hrow => by simpa [isQueryRow] using hcategory row hrow
  have hdistinct : (s.config.map ConfigRow.name).Nodup :=
    List.pairwise_map.2 <| h.names.imp_of_mem fun {a b} ha hb hab hsame =>
      hab ⟨(hcategory a ha).trans (hcategory b hb).symm, hsame⟩
  refine ⟨names, by rw [hall, hnames], .of_map Cell.text (hnames ▸ hdistinct), fun name => ?_⟩
  calc name ∈ names
    _ ↔ Cell.text name ∈ s.config.map ConfigRow.name := by
      rw [← hnames, List.mem_map_of_injective fun _ _ => Cell.text.inj]
    _ ↔ ∃ row ∈ s.config, isQueryNamed name row := by
      rw [List.mem_map]
      exact exists_congr fun row => and_congr_right fun hrow => by
        rw [isQueryNamed_iff, and_iff_right (hcategory row hrow)]
    _ ↔ (s.config.find? (isQueryNamed name)).isSome := List.find?_isSome.symm

theorem Holds.queryNames (h : s.Holds m) (hsound : s.IsSound) : ∃ names : List Text,
    (∀ hold, s.queryNames hold = hold.reading (.ok names)) ∧
      (names.Pairwise fun a b => Utf8.encode a < Utf8.encode b) ∧ ∀ name, name ∈ names ↔ (m name).isSome := by
  obtain ⟨names, hrows, hnodup, hmem⟩ := hsound.exists_names
  have hperm := sortByKey_perm id names
  refine ⟨sortByKey id names, fun hold => ?_, ?_, fun name => ?_⟩
  · have hcells : ((s.config.filter isQueryRow).mapM fun row => row.name.asText) = .ok names := by
      rw [← mapM_asText, ← hrows, List.mapM_map]
      rfl
    rw [Store.queryNames, hcells]
    rfl
  · have hsorted := (sortByKey_inOrder id names).and (hperm.nodup_iff.2 hnodup)
    exact hsorted.imp fun ⟨hnot, hne⟩ =>
      Utf8.before_iff_encode_lt.1 ((Text.before_or_before hne).resolve_right hnot)
  · rw [hperm.mem_iff, hmem, h name, Option.isSome_map]

end Store

/-! ## Sessions -/

namespace Kept

end Kept

end Notebook
