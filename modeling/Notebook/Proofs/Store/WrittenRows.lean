import Notebook.Proofs.Store.Reassembly
import Notebook.Proofs.Store.Steps

/-! # Rows that saving wrote

At a path that was free before a batch, whatever stands there after it are the rows of one note as they were
inserted, and every field of that note has a row.
-/

namespace Notebook

namespace Store

variable {s t : Store} {path : Text}

/-! ## Rows after saving -/

/-- The rows of a path are those of one note that was inserted, or there are none. -/
def IsWrittenAt (s : Store) (path : Text) : Prop :=
  s.recordsAt path = [] ∨ ∃ r n, s.recordsAt path = [r] ∧ s.tagsOf r.id = tagRows r.id n

theorem AgreeAt.isWrittenAt (h : AgreeAt path s t) (hs : s.IsWrittenAt path) : t.IsWrittenAt path := by
  rcases hs with hnone | ⟨r, n, hr, htags⟩
  · exact .inl (h.records.trans hnone)
  · exact .inr ⟨r, n, h.records.trans hr, (h.tags r (by simp [hr])).trans htags⟩

theorem isWrittenAt_insert {n : Note} (hnone : s.recordsAt n.path = []) (h : s.insert n = .ok t) :
    t.IsWrittenAt n.path :=
  .inr ⟨_, n, recordsAt_insert_self h hnone, tagsOf_insert_self h⟩

theorem respects_isWrittenAt (around : Surroundings) (path : Text) :
    Saving.Respects around fun b b' => b.store.IsWrittenAt path → b'.store.IsWrittenAt path where
  refl _ h := h
  trans hab hbc h := hbc (hab h)
  noted _ _ _ h := h
  taken := by
    intro q b r b' h hb
    cases h with
    | locked _ | unreadable _ | nothing _ | notArchived _ _ | notDeleted _ _ _ => exact hb
    | taken _ _ _ =>
      by_cases hq : path = q
      · subst hq
        exact .inl (b.store.recordsAt_delete_self path)
      · exact (agreeAt_delete b.store hq).isWrittenAt hb
  inserted := by
    intro n b s hnone hs hb
    by_cases hpath : path = n.path
    · subst hpath
      exact isWrittenAt_insert (idsAt_eq_nil.1 (contents_eq_none.1 hnone)) hs
    · exact (agreeAt_insert hs hpath).isWrittenAt hb

theorem IsReadable.delete (h : s.IsReadable) (ids : List Int) : (s.delete ids).IsReadable where
  path r hr := h.path r (List.mem_filter.1 hr).1
  text r hr := h.text r (List.mem_filter.1 hr).1
  id row hrow := h.id row (List.mem_filter.1 hrow).1
  name r hr row hrow := by
    obtain ⟨hmem, hkept⟩ := List.mem_filter.1 hr
    rw [tagsOf_delete (by simpa using hkept)] at hrow
    exact h.name r hmem row hrow

theorem asText?_tagRows {id : Int} {n : Note} {row : TagRow} (h : row ∈ tagRows id n) :
    ∃ name, row.name.asText? = .ok name := by
  simp only [tagRows, List.mem_append, List.mem_map] at h
  rcases h with ⟨tag, _, rfl⟩ | ⟨⟨name, value⟩, _, rfl⟩ <;> exact ⟨_, rfl⟩

theorem IsReadable.insert (h : s.IsReadable) {n : Note} (ht : s.insert n = .ok t) : t.IsReadable where
  path := (forall_records_insert ht).2 ⟨⟨n.path, rfl⟩, h.path⟩
  text := (forall_records_insert ht).2 ⟨⟨some n.text, rfl⟩, h.text⟩
  id row hrow := by
    obtain ⟨-, rfl⟩ := insert_eq_ok ht
    rcases List.mem_append.1 hrow with hrow | hrow
    · exact h.id row (List.mem_filter.1 hrow).1
    · exact ⟨_, isOf_tagRows hrow⟩
  name := by
    refine (forall_records_insert ht).2 ⟨fun row hrow => ?_, fun r hr row hrow => ?_⟩
    · rw [tagsOf_insert_self ht] at hrow
      exact asText?_tagRows hrow
    · rw [tagsOf_insert_of_ne ht (id_ne_nextId hr)] at hrow
      exact h.name r hr row hrow

theorem respects_isReadable (around : Surroundings) :
    Saving.Respects around fun b b' => b.store.IsReadable → b'.store.IsReadable where
  refl _ h := h
  trans hab hbc h := hbc (hab h)
  noted _ _ _ h := h
  taken h hb := by
    cases h with
    | locked _ | unreadable _ | nothing _ | notArchived _ _ | notDeleted _ _ _ => exact hb
    | taken _ _ _ => exact hb.delete _
  inserted _ hs hb := hb.insert hs

/-! ## Fields and their rows -/

/-- Every field of the note comes from a row of the records at that path. -/
def Sources (s : Store) (path : Text) (n : Note) : Prop :=
  ∀ f ∈ n.fields, ∃ r ∈ s.recordsAt path, ∃ row ∈ s.tagsOf r.id,
    row.name.asText? = .ok (some f.1) ∧ row.value.value? = some f.2

theorem Sources.withTagRow {n m : Note} (h : s.Sources path n) {r : RecordRow} (hr : r ∈ s.recordsAt path)
    {row : TagRow} (hrow : row ∈ s.tagsOf r.id) (hm : withTagRow n row = .ok m) : s.Sources path m := by
  obtain ⟨name, hname, hm⟩ := bind_eq_ok.1 hm
  cases name with
  | none => exact Except.ok.inj hm ▸ h
  | some name =>
    cases hvalue : row.value.value? with
    | none =>
      simp only [hvalue] at hm
      exact Except.ok.inj hm ▸ h
    | some value =>
      simp only [hvalue] at hm
      obtain rfl := Except.ok.inj hm
      unfold Note.addField
      split
      · exact h
      · intro f hf
        rcases List.mem_append.1 hf with hf | hf
        · exact h f hf
        · rw [List.mem_singleton.1 hf]
          exact ⟨r, hr, row, hrow, hname, hvalue⟩

theorem sources_of_contents {n : Note} (h : s.contents path = .ok (some n)) : s.Sources path n := by
  rw [contents_eq] at h
  split at h
  · cases h
  obtain ⟨m, hm, hsome⟩ := map_eq_ok.1 h
  obtain rfl := Option.some.inj hsome
  obtain ⟨begun, htexts, htags⟩ := bind_eq_ok.1 hm
  have hbegun : begun.fields = [] := by
    refine foldlM_preserves (fun n => n.fields = []) (fun n r _ more hn hmore => ?_) (by rfl) htexts
    obtain ⟨text, -, hmore⟩ := bind_eq_ok.1 hmore
    obtain rfl := Except.ok.inj hmore
    unfold addText
    split <;> exact hn
  refine foldlM_preserves (s.Sources path) (fun n r hr more hn hmore => ?_) (by simp [Sources, hbegun]) htags
  exact foldlM_preserves (s.Sources path) (fun n row hrow more hn hmore => hn.withTagRow hr hrow hmore) hn hmore

end Store

end Notebook
