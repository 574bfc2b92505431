import Notebook.Proofs.Store.Changes
import Notebook.Store.Saving

/-! # What the steps of a batch come to -/

namespace Notebook

def Batch.archiving (b : Batch) (stamp : Text) (n : Note) : Batch :=
  { b with
    archived := b.archived ++ (n.stamped stamp).written
    report := b.report.add { Report.zero with archived := 1 } }

def Batch.removing (b : Batch) (path : Text) : Batch :=
  { b with store := b.store.delete (b.store.idsAt path) }

namespace Saving

variable {α β : Type} {around : Surroundings}

/-- What a step comes to, and the batch after it. -/
def outcome (step : Saving α) (b : Batch) : Except Failure α × Batch := step.run.run b

/-! ## Small steps -/

@[simp] theorem outcome_pure (a : α) (b : Batch) : outcome (pure a) b = (.ok a, b) := rfl

@[simp] theorem outcome_throw (e : Failure) (b : Batch) :
    outcome (throw e : Saving α) b = (.error e, b) := rfl

@[simp] theorem outcome_get (b : Batch) : outcome (get : Saving Batch) b = (.ok b, b) := rfl

theorem outcome_bind (step : Saving α) (next : α → Saving β) (b : Batch) :
    outcome (step >>= next) b =
      match outcome step b with
      | (.ok a, b') => outcome (next a) b'
      | (.error e, b') => (.error e, b') := by
  change (ExceptT.bindCont next (step.run.run b).1).run (step.run.run b).2 = _
  unfold outcome
  rcases step.run.run b with ⟨_ | a, b'⟩ <;> rfl

theorem outcome_bind_ok {step : Saving α} {next : α → Saving β} {b b' : Batch} {a : α}
    (h : outcome step b = (.ok a, b')) : outcome (step >>= next) b = outcome (next a) b' := by
  rw [outcome_bind, h]

theorem outcome_bind_error {step : Saving α} {next : α → Saving β} {b b' : Batch} {e : Failure}
    (h : outcome step b = (.error e, b')) : outcome (step >>= next) b = (.error e, b') := by
  rw [outcome_bind, h]

theorem outcome_bind_eq_ok {step : Saving α} {next : α → Saving β} {b b' : Batch} {c : β}
    (h : outcome (step >>= next) b = (.ok c, b')) :
    ∃ a mid, outcome step b = (.ok a, mid) ∧ outcome (next a) mid = (.ok c, b') := by
  rw [outcome_bind] at h
  rcases hstep : outcome step b with ⟨_ | a, mid⟩
  · simp [hstep] at h
  · exact ⟨a, mid, rfl, by simpa [hstep] using h⟩

@[simp] theorem outcome_count (r : Report) (b : Batch) :
    outcome (count r) b = (.ok (), { b with report := b.report.add r }) := rfl

@[simp] theorem outcome_notify (n : Notice) (b : Batch) :
    outcome (notify n) b = (.ok (), { b with notices := b.notices ++ [n] }) := rfl

@[simp] theorem outcome_reading (around : Surroundings) (read : Store → Except Failure α) (b : Batch) :
    outcome (reading around read) b = (around.hold.reading (read b.store), b) := by
  have h : outcome (reading around read) b
      = outcome (reading.liftExcept (around.hold.reading (read b.store))) b := rfl
  rw [h]
  cases around.hold.reading (read b.store) <;> rfl

theorem outcome_writing (write : Store → Except Failure Store) (b : Batch) :
    outcome (writing around write) b =
      if around.hold.canWrite then
        match write b.store with
        | .ok s => (.ok (), { b with store := s })
        | .error e => (.error e, b)
      else (.error around.hold.writeFailure, b) := by
  unfold writing
  split
  · rw [outcome_bind_ok (outcome_get b)]
    cases write b.store <;> rfl
  · rfl

theorem outcome_archive_single (around : Surroundings) (key : Text) (n : Note) (b : Batch) :
    outcome (archive around (Notes.single key n)) b =
      match around.archiveProblem with
      | some problem => (.error (.file problem), b)
      | none => (.ok (), { b with archived := b.archived ++ (n.stamped around.stamp).written }) := by
  unfold archive
  rw [if_pos (by simp)]
  cases around.archiveProblem with
  | some problem => rfl
  | none =>
    have h : archiveText (Notes.single key n) around.stamp = (n.stamped around.stamp).written := by
      simp [archiveText]
    rw [← h]
    rfl

theorem outcome_insert (n : Note) (b : Batch) :
    outcome (insert around n) b =
      if around.hold.canWrite then
        match b.store.insert n with
        | .ok s => (.ok (), { b with store := s })
        | .error e => (.error e, b)
      else (.error around.hold.writeFailure, b) := outcome_writing (·.insert n) b

theorem insert_eq_ok {n : Note} {b b' : Batch} (h : outcome (insert around n) b = (.ok (), b')) :
    ∃ s, b.store.insert n = .ok s ∧ b' = { b with store := s } := by
  rw [outcome_insert] at h
  split at h
  · cases hs : b.store.insert n with
    | error e => simp [hs] at h
    | ok s =>
      simp only [hs, Prod.mk.injEq, true_and] at h
      exact ⟨s, rfl, h.symm⟩
  · simp at h

theorem outcome_addOnly (n : Note) (b : Batch) :
    outcome (addOnly around n) b =
      if around.hold.canRead then
        if b.store.idsAt n.path = [] then
          outcome (insert around n >>= fun _ => count { Report.zero with inserted := 1 }) b
        else (.error (.duplicatePath n.path), b)
      else (.error .databaseLocked, b) := by
  have hids := outcome_reading around (fun s => .ok (s.idsAt n.path)) b
  unfold addOnly
  cases hread : around.hold.canRead with
  | false =>
    rw [Hold.reading, hread] at hids
    exact outcome_bind_error hids
  | true =>
    rw [Hold.reading, hread] at hids
    rw [outcome_bind_ok hids]
    by_cases hnil : b.store.idsAt n.path = []
    · simp only [hnil, ne_eq, not_true, if_false, if_true]
    · simp only [hnil, ne_eq, not_false_eq_true, if_false, if_true]
      exact outcome_bind_error (outcome_throw ..)

/-! ## Taking what is stored -/

/-- All that taking the note at a path can come to. -/
inductive Taken (around : Surroundings) (path : Text) (b : Batch) :
    Except Failure (Option Note) → Batch → Prop where
  | locked : around.hold.canRead = false → Taken around path b (.error .databaseLocked) b
  | unreadable {e : Failure} : b.store.contents path = .error e → Taken around path b (.error e) b
  | nothing : b.store.contents path = .ok none → Taken around path b (.ok none) b
  | notArchived {n : Note} {problem : FileProblem} : b.store.contents path = .ok (some n) →
      around.archiveProblem = some problem → Taken around path b (.error (.file problem)) b
  | notDeleted {n : Note} : b.store.contents path = .ok (some n) → around.archiveProblem = none →
      around.hold.canWrite = false →
      Taken around path b (.error around.hold.writeFailure) (b.archiving around.stamp n)
  | taken {n : Note} : b.store.contents path = .ok (some n) → around.archiveProblem = none →
      around.hold.canWrite = true →
      Taken around path b (.ok (some n)) ((b.archiving around.stamp n).removing path)

theorem take_taken (around : Surroundings) (path : Text) (b : Batch) :
    Taken around path b (outcome (take around path) b).1 (outcome (take around path) b).2 := by
  have ids := outcome_reading around (fun s => .ok (s.idsAt path)) b
  cases hread : around.hold.canRead with
  | false =>
    have hids : around.hold.reading (.ok (b.store.idsAt path)) = .error .databaseLocked := by
      simp [Hold.reading, hread]
    rw [hids] at ids
    rw [take, outcome_bind_error ids]
    exact .locked hread
  | true =>
    have hreading {γ : Type} (x : Except Failure γ) : around.hold.reading x = x := by
      simp [Hold.reading, hread]
    rw [hreading] at ids
    rw [take, outcome_bind_ok ids]
    by_cases hnil : b.store.idsAt path = []
    · rw [if_pos hnil]
      exact .nothing (Store.contents_eq_none.2 hnil)
    rw [if_neg hnil]
    rw [Store.idsAt_eq_nil] at hnil
    have found := Store.notesOf_idsAt b.store path
    have hcontents := Store.contents_eq b.store path
    rw [if_neg hnil] at found hcontents
    have hnotes := outcome_reading around (fun s => s.notesOf (b.store.idsAt path)) b
    rw [hreading, found] at hnotes
    cases hn : b.store.assembled path with
    | error e =>
      rw [hn] at hnotes hcontents
      rw [outcome_bind_error hnotes]
      exact .unreadable hcontents
    | ok n =>
      rw [hn] at hnotes hcontents
      rw [outcome_bind_ok hnotes]
      have harchive := outcome_archive_single around path n b
      cases hproblem : around.archiveProblem with
      | some problem =>
        rw [hproblem] at harchive
        rw [outcome_bind_error harchive]
        exact .notArchived hcontents hproblem
      | none =>
        rw [hproblem] at harchive
        rw [outcome_bind_ok harchive, outcome_bind_ok (outcome_count ..), outcome_bind, outcome_writing]
        cases hwrite : around.hold.canWrite with
        | false => exact .notDeleted hcontents hproblem hwrite
        | true =>
          change Taken around path b (.ok ((Notes.single path n).get? path))
            ((b.archiving around.stamp n).removing path)
          rw [Notes.get?_single, if_pos rfl]
          exact .taken hcontents hproblem hwrite

theorem take_eq_ok {path : Text} {r : Option Note} {b b' : Batch}
    (h : outcome (take around path) b = (.ok r, b')) :
    b.store.contents path = .ok r ∧
      b'.store.contents = Function.update b.store.contents path (.ok none) := by
  have ht := take_taken around path b
  rw [h] at ht
  cases ht with
  | nothing hnone => exact ⟨hnone, by rw [← hnone, Function.update_eq_self]⟩
  | taken hsome _ _ => exact ⟨hsome, Store.contents_delete b.store path⟩

theorem saveAll_append (around : Surroundings) (notes more : List Note) :
    saveAll around (notes ++ more) = (do saveAll around notes; saveAll around more) := by
  induction notes with
  | nil => simp [saveAll]
  | cons n rest ih => simp [saveAll, ih]

end Saving

/-! ## Whole batches -/

namespace Store

def newBatch (s : Store) : Batch := ⟨s, [], .zero, []⟩

theorem save_eq (s : Store) (around : Surroundings) (notes : Notes) :
    s.save around notes =
      match Saving.outcome (Saving.saveAll around notes.inPathOrder) s.newBatch with
      | (.ok (), b) => ⟨b.store, b.archived, b.notices ++ [.notesSaved b.report], .ok b.report⟩
      | (.error (.duplicatePath path), b) =>
        ⟨b.store, b.archived, b.notices, .error (.duplicatePath path)⟩
      | (.error e, b) => ⟨s, b.archived, b.notices, .error e⟩ := rfl

theorem archived_save (s : Store) (around : Surroundings) (notes : Notes) :
    (s.save around notes).archived
      = (Saving.outcome (Saving.saveAll around notes.inPathOrder) s.newBatch).2.archived := by
  rw [save_eq]
  rcases Saving.outcome (Saving.saveAll around notes.inPathOrder) s.newBatch with ⟨e | _, b⟩
  · cases e <;> rfl
  · rfl

theorem store_save (s : Store) (around : Surroundings) (notes : Notes) :
    (s.save around notes).store = s ∨ (s.save around notes).store
      = (Saving.outcome (Saving.saveAll around notes.inPathOrder) s.newBatch).2.store := by
  rw [save_eq]
  rcases Saving.outcome (Saving.saveAll around notes.inPathOrder) s.newBatch with ⟨e | _, b⟩
  · cases e <;> simp
  · exact .inr rfl

theorem save_eq_ok {s : Store} {around : Surroundings} {notes : Notes} {report : Report}
    (h : (s.save around notes).result = .ok report) :
    ∃ b, Saving.outcome (Saving.saveAll around notes.inPathOrder) s.newBatch = (.ok (), b) ∧
      s.save around notes = ⟨b.store, b.archived, b.notices ++ [.notesSaved b.report], .ok b.report⟩ := by
  rw [save_eq] at h ⊢
  generalize Saving.outcome (Saving.saveAll around notes.inPathOrder) s.newBatch = reached at h ⊢
  rcases reached with ⟨e | ⟨⟩, b⟩
  · cases e <;> cases h
  · exact ⟨b, rfl, rfl⟩

/-- The tables after a batch that failed: only an `add` keeps what was saved before it. -/
def afterFailure (s : Store) (b : Batch) : Failure → Store
  | .duplicatePath _ => b.store
  | _ => s

theorem save_eq_error {s : Store} {around : Surroundings} {notes : Notes} {e : Failure}
    (h : (s.save around notes).result = .error e) :
    ∃ b, Saving.outcome (Saving.saveAll around notes.inPathOrder) s.newBatch = (.error e, b) ∧
      (s.save around notes).archived = b.archived ∧ (s.save around notes).store = s.afterFailure b e := by
  rw [save_eq] at h ⊢
  generalize Saving.outcome (Saving.saveAll around notes.inPathOrder) s.newBatch = reached at h ⊢
  obtain ⟨f | _, b⟩ := reached
  · cases f <;> obtain rfl := Except.error.inj h <;> exact ⟨b, rfl, rfl, rfl⟩
  · cases h

end Store

end Notebook
