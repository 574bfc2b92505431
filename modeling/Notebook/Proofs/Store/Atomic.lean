import Notebook.Proofs.PathOrder
import Notebook.Proofs.Store.Copies
import Notebook.Proofs.Store.Faults
import Notebook.Proofs.Store.Refinement

/-! # Batches that fail

A batch that fails leaves the tables as they were, or it fails at an `add` whose path is in use, and then it
comes to what saving only the notes before that one comes to.
-/

namespace Notebook

/-! ## The first notes of a batch -/

namespace Saving

variable {around : Surroundings} {b b' : Batch}

theorem saveAll_eq_duplicatePath {notes : List Note} {path : Text}
    (h : outcome (saveAll around notes) b = (.error (.duplicatePath path), b')) :
    ∃ k n, notes[k]? = some n ∧ n.directive = .addOnly ∧ n.path = path ∧
      outcome (saveAll around (notes.take k)) b = (.ok (), b') ∧ b'.store.idsAt path ≠ [] := by
  obtain ⟨k, n, mid, hn, hsaved, hfail⟩ := saveAll_eq_error h
  rcases save_eq_error hfail with hfault | ⟨hd, hpath, hused, rfl⟩
  · exact absurd rfl (hfault.ne_duplicatePath path)
  · obtain rfl := Failure.duplicatePath.inj hpath
    exact ⟨k, n, hn, hd, rfl, hsaved, hused⟩

theorem saveAll_take_eq_ok {notes : List Note} (h : outcome (saveAll around notes) b = (.ok (), b')) (k : Nat) :
    ∃ mid, outcome (saveAll around (notes.take k)) b = (.ok (), mid) := by
  induction notes generalizing b k with
  | nil => exact ⟨b', by rw [List.take_nil, h]⟩
  | cons n rest ih =>
    cases k with
    | zero => exact ⟨b, rfl⟩
    | succ k =>
      obtain ⟨_, mid, hfirst, hrest⟩ := outcome_bind_eq_ok h
      obtain ⟨reached, hreached⟩ := ih hrest k
      exact ⟨reached, by rw [List.take_succ_cons, saveAll, outcome_bind_ok hfirst, hreached]⟩

end Saving

/-! ## Batches as a whole -/

namespace Store

theorem save_of_saveAll_eq_ok {s : Store} {around : Surroundings} {notes : Notes} {b : Batch}
    (h : Saving.outcome (Saving.saveAll around notes.inPathOrder) s.newBatch = (.ok (), b)) :
    s.save around notes = ⟨b.store, b.archived, b.notices ++ [.notesSaved b.report], .ok b.report⟩ := by
  rw [save_eq, h]

end Store

namespace Saved

variable {s : Store} {around : Surroundings} {notes : Notes}

/-- The batch fails at its note number `k`, an `add` whose path is in use once the notes before it are saved,
and leaves what saving those notes alone leaves. -/
structure EndsAtAdd (saved : Saved) (s : Store) (around : Surroundings) (notes : Notes) (path : Text)
    (k : Nat) : Prop where
  note : ∃ n, notes.inPathOrder[k]? = some n ∧ n.directive = .addOnly ∧ n.path = path
  before : ∀ j ≤ k, ∃ report, (s.save around (notes.first j)).result = .ok report
  inUse : (s.save around (notes.first k)).store.idsAt path ≠ []
  store : saved.store = (s.save around (notes.first k)).store
  archived : saved.archived = (s.save around (notes.first k)).archived

/-- The tables are as they were, and what was archived are whole copies of notes, each of them stored once
some first notes of the batch were saved. -/
structure IsTakenBack (saved : Saved) (s : Store) (around : Surroundings) (notes : Notes) : Prop where
  store : saved.store = s
  archived : ∃ copies : List Note,
    saved.archived = copies.flatMap (fun n => (n.stamped around.stamp).written) ∧
      ∀ n ∈ copies, ∃ k report, (s.save around (notes.first k)).result = .ok report ∧
        (s.save around (notes.first k)).store.noteAt? .free n.path = .ok (some n)

theorem endsAtAdd_save {path : Text} (h : (s.save around notes).result = .error (.duplicatePath path)) :
    ∃ k, (s.save around notes).EndsAtAdd s around notes path k := by
  obtain ⟨b, hout, harchived, hstore⟩ := Store.save_eq_error h
  obtain ⟨k, n, hn, hd, hpath, hsaved, hused⟩ := Saving.saveAll_eq_duplicatePath hout
  rw [← Notes.inPathOrder_first] at hsaved
  have hfirst := Store.save_of_saveAll_eq_ok hsaved
  refine ⟨k, ⟨n, hn, hd, hpath⟩, fun j hj => ?_, by rwa [hfirst], ?_, ?_⟩
  · obtain ⟨mid, hmid⟩ := Saving.saveAll_take_eq_ok hsaved j
    rw [Notes.inPathOrder_first, List.take_take, Nat.min_eq_left hj, ← Notes.inPathOrder_first] at hmid
    exact ⟨mid.report, by rw [Store.save_of_saveAll_eq_ok hmid]⟩
  · rw [hstore, hfirst]
    rfl
  · rw [harchived, hfirst]

theorem copies_of_save (s : Store) (around : Surroundings) (notes : Notes) :
    ∃ copies : List Note,
      (s.save around notes).archived = copies.flatMap (fun n => (n.stamped around.stamp).written) ∧
        ∀ n ∈ copies, ∃ k report, (s.save around (notes.first k)).result = .ok report ∧
          (s.save around (notes.first k)).store.noteAt? .free n.path = .ok (some n) := by
  obtain ⟨copies, hcopies, hstored⟩ := Saving.saveAll_copies around notes.inPathOrder s.newBatch
  refine ⟨copies, (Store.archived_save s around notes).trans hcopies, fun n hn => ?_⟩
  obtain ⟨k, mid, hmid, hread⟩ := hstored n hn
  rw [← Notes.inPathOrder_first] at hmid
  have hfirst := Store.save_of_saveAll_eq_ok hmid
  exact ⟨k, mid.report, by rw [hfirst], by rw [hfirst]; exact hread⟩

theorem store_save_of_error {e : Failure} (h : (s.save around notes).result = .error e)
    (hadd : ∀ path, e ≠ .duplicatePath path) : (s.save around notes).store = s := by
  obtain ⟨b, -, -, hstore⟩ := Store.save_eq_error h
  cases e with
  | duplicatePath path => exact absurd rfl (hadd path)
  | database | databaseLocked | integrityViolation _ | incompatibleMerge _ _ | savedQueryNotFound _ | file _ =>
    exact hstore

end Saved

open Saved in
/-- Saving fails at an `add` as if only the notes before it had been given, and with any other failure it
takes back all that it did to the tables. -/
theorem saveAndCommit_takenBack_or_endsAtAdd (s : Store) (around : Surroundings) (notes : Notes) {refusal : Option Failure}
    (hrefusal : ∀ e ∈ refusal, e.isFatal = true) :
    (∀ path, (s.saveAndCommit around notes refusal).result = .error (.duplicatePath path) →
      ∃ k, (s.saveAndCommit around notes refusal).EndsAtAdd s around notes path k) ∧
    ∀ e, (s.saveAndCommit around notes refusal).result = .error e → (∀ path, e ≠ .duplicatePath path) →
      (s.saveAndCommit around notes refusal).IsTakenBack s around notes := by
  obtain ⟨copies, hcopies⟩ := copies_of_save s around notes
  have kept (saved : Saved) (hs : saved.store = s) (ha : saved.archived = (s.save around notes).archived) :
      saved.IsTakenBack s around notes := ⟨hs, copies, ha ▸ hcopies⟩
  unfold Store.saveAndCommit
  dsimp only
  split
  · rename_i f _
    refine ⟨fun path h => ?_, fun _ _ _ => kept _ rfl rfl⟩
    have := hrefusal f rfl
    simp [Except.error.inj h, Failure.isFatal] at this
  · rename_i f _
    refine ⟨fun path h => ?_, fun _ _ _ => kept _ rfl rfl⟩
    have := hrefusal f rfl
    simp [Except.error.inj h, Failure.isFatal] at this
  · exact ⟨fun path h => endsAtAdd_save h, fun e h hadd => kept _ (store_save_of_error h hadd) rfl⟩

def clash : Notes := .ofList [
  ("a".toList, ⟨"a".toList, ["new".toList], [], [], .replace⟩),
  ("b".toList, ⟨"b".toList, [], [], [], .addOnly⟩)]

theorem saveAndCommit_clash :
    (shelf.saveAndCommit undisturbed clash none).result = .error (.duplicatePath "b".toList) ∧
      (∃ k, (shelf.saveAndCommit undisturbed clash none).EndsAtAdd shelf undisturbed clash "b".toList k) ∧
      (shelf.saveAndCommit undisturbed clash (some .databaseLocked)).result = .error .databaseLocked ∧
      (shelf.saveAndCommit undisturbed clash (some .databaseLocked)).IsTakenBack shelf undisturbed clash := by
  have hadd : (shelf.saveAndCommit undisturbed clash none).result = .error (.duplicatePath "b".toList) := by
    decide +kernel
  have hlocked : (shelf.saveAndCommit undisturbed clash (some .databaseLocked)).result
      = .error .databaseLocked := by
    decide +kernel
  refine ⟨hadd, ?_, hlocked, ?_⟩
  · exact (saveAndCommit_takenBack_or_endsAtAdd shelf undisturbed clash (by simp)).1 _ hadd
  · exact (saveAndCommit_takenBack_or_endsAtAdd shelf undisturbed clash (by simp [Failure.isFatal])).2 _
      hlocked (by simp)

end Notebook
