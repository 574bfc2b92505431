import Notebook.Proofs.Store.Steps

/-! # What can go wrong in a batch

Rows that cannot be read, and columns in which nothing may repeat, each have one failure of their own.
-/

namespace Notebook

/-! ## Reading rows -/

theorem Cell.asText?_eq_error {c : Cell} {e : Failure} (h : c.asText? = .error e) : e = .database := by
  cases c <;> simp_all [Cell.asText?]

namespace Store

theorem withRecordText_eq_error {n : Note} {r : RecordRow} {e : Failure}
    (h : withRecordText n r = .error e) : e = .database := by
  rcases bind_eq_error.1 h with h | ⟨_, -, h⟩
  · exact Cell.asText?_eq_error h
  · cases h

theorem withTagRow_eq_error {n : Note} {row : TagRow} {e : Failure} (h : withTagRow n row = .error e) :
    e = .database := by
  rcases bind_eq_error.1 h with h | ⟨name, -, h⟩
  · exact Cell.asText?_eq_error h
  · cases name with
    | none => cases h
    | some name => cases hvalue : row.value.value? <;> simp [hvalue] at h <;> cases h

theorem contents_eq_error {s : Store} {path : Text} {e : Failure} (h : s.contents path = .error e) :
    e = .database := by
  rw [contents_eq] at h
  split at h
  · cases h
  · rcases bind_eq_error.1 (map_eq_error.1 h) with htexts | ⟨n, -, htags⟩
    · obtain ⟨_, r, -, hr⟩ := foldlM_eq_error htexts
      exact withRecordText_eq_error hr
    · obtain ⟨m, r, -, hrows⟩ := foldlM_eq_error htags
      obtain ⟨_, row, -, hrow⟩ := foldlM_eq_error hrows
      exact withTagRow_eq_error hrow

/-! ## Inserting -/

theorem violated?_eq_some {s : Store} {n : Note} {column : UniqueColumn}
    (hnone : s.contents n.path = .ok none) (h : s.violated? (.text n.path) (.text n.text) = some column) :
    column = .text ∧ s.uniqueTexts = true := by
  have hfree : ∀ r ∈ s.records, r.path ≠ .text n.path := by
    simpa [recordsAt] using idsAt_eq_nil.1 (contents_eq_none.1 hnone)
  unfold violated? at h
  split at h
  · rename_i hpath
    simp only [Bool.and_eq_true, List.any_eq_true, decide_eq_true_eq] at hpath
    obtain ⟨-, r, hr, hsame, -⟩ := hpath
    exact absurd hsame (hfree r hr)
  · split at h
    · rename_i htext
      exact ⟨(Option.some.inj h).symm, (Bool.and_eq_true_iff.1 htext).1⟩
    · cases h

end Store

/-! ## Failures of a step -/

/-- A store that cannot be used, an archive that cannot be written, or a text that must not be repeated. -/
inductive Fault (s : Store) : Failure → Prop where
  | fatal {e : Failure} : e.isFatal = true → Fault s e
  | file (problem : FileProblem) : Fault s (.file problem)
  | repeatedText : s.uniqueTexts = true → Fault s (.integrityViolation UniqueColumn.text.violation)

theorem Hold.isFatal_writeFailure (h : Hold) : h.writeFailure.isFatal = true := by
  cases h <;> rfl

namespace Fault

variable {s : Store} {e : Failure}

theorem ne_duplicatePath (h : Fault s e) (path : Text) : e ≠ .duplicatePath path := by
  rintro rfl
  cases h with
  | fatal h => cases h

theorem ne_incompatibleMerge (h : Fault s e) (path other : Text) : e ≠ .incompatibleMerge path other := by
  rintro rfl
  cases h with
  | fatal h => cases h

theorem of_contents {path : Text} (h : s.contents path = .error e) : Fault s e := by
  rw [Store.contents_eq_error h]
  exact .fatal rfl

theorem of_insert {n : Note} (hnone : s.contents n.path = .ok none) (h : s.insert n = .error e) :
    Fault s e := by
  unfold Store.insert at h
  split at h
  · rename_i column hviolated
    obtain ⟨rfl, htexts⟩ := Store.violated?_eq_some hnone hviolated
    exact Except.error.inj h ▸ .repeatedText htexts
  · cases h

end Fault

theorem Store.uniqueTexts_insert {s t : Store} {n : Note} (h : s.insert n = .ok t) :
    t.uniqueTexts = s.uniqueTexts := by
  obtain ⟨-, rfl⟩ := insert_eq_ok h
  rfl

namespace Saving

/-- The parts of a step leave it as it is whether texts may be repeated, and fail with nothing but faults. -/
theorem covers_fault (around : Surroundings) :
    Covers around fun b e b' => b'.store.uniqueTexts = b.store.uniqueTexts ∧ ∀ f ∈ e, Fault b.store f where
  refl _ := ⟨rfl, by simp⟩
  trans := by
    rintro a b c e ⟨hab, -⟩ ⟨hbc, hfault⟩
    refine ⟨hbc.trans hab, fun f hf => ?_⟩
    cases hfault f hf with
    | fatal h => exact .fatal h
    | file problem => exact .file problem
    | repeatedText h => exact .repeatedText (hab ▸ h)
  noted _ _ _ := ⟨rfl, by simp⟩
  taken h := by
    cases h with
    | locked _ => exact ⟨rfl, by simpa using .fatal rfl⟩
    | unreadable h => exact ⟨rfl, by simpa using .of_contents h⟩
    | nothing _ => exact ⟨rfl, by simp⟩
    | notArchived _ _ => exact ⟨rfl, by simpa using .file _⟩
    | notDeleted _ _ _ => exact ⟨rfl, by simpa using .fatal around.hold.isFatal_writeFailure⟩
    | taken _ _ _ => exact ⟨rfl, by simp⟩
  inserted _ h := ⟨Store.uniqueTexts_insert h, by simp⟩
  refused hnone h := ⟨rfl, by simpa using .of_insert hnone h⟩
  notRead _ _ := ⟨rfl, by simpa using .fatal rfl⟩
  notWritten _ _ := ⟨rfl, by simpa using .fatal around.hold.isFatal_writeFailure⟩

variable {around : Surroundings} {b b' : Batch} {e : Failure}

/-- A note that is not saved meets a fault, or it is an `add` at a path in use, which changes nothing. -/
theorem save_eq_error {n : Note} (h : outcome (save around n) b = (.error e, b')) :
    Fault b.store e ∨
      n.directive = .addOnly ∧ e = .duplicatePath n.path ∧ b.store.idsAt n.path ≠ [] ∧ b' = b := by
  by_cases hfree : n.directive = .addOnly → b.store.idsAt n.path = []
  · left
    have hmeets := (covers_fault around).save (n := n) (b := b) fun hd hused => absurd (hfree hd) hused
    unfold Meets at hmeets
    rw [h] at hmeets
    exact hmeets.2 e rfl
  · obtain ⟨hd, hused⟩ := Classical.not_imp.1 hfree
    simp only [save, hd] at h
    rw [outcome_addOnly] at h
    split at h
    · obtain ⟨rfl, rfl⟩ : .duplicatePath n.path = e ∧ b = b' := by simpa [hused] using h
      exact .inr ⟨hd, rfl, hused, rfl⟩
    · simp only [Prod.mk.injEq, Except.error.injEq] at h
      exact .inl (h.1 ▸ .fatal rfl)

theorem saveAll_eq_error {notes : List Note} (h : outcome (saveAll around notes) b = (.error e, b')) :
    ∃ k n mid, notes[k]? = some n ∧ outcome (saveAll around (notes.take k)) b = (.ok (), mid) ∧
      outcome (save around n) mid = (.error e, b') := by
  induction notes generalizing b with
  | nil => cases h
  | cons n rest ih =>
    rcases hout : outcome (save around n) b with ⟨f | _, mid⟩
    · rw [saveAll, outcome_bind_error hout] at h
      exact ⟨0, n, b, rfl, rfl, hout.trans h⟩
    · rw [saveAll, outcome_bind_ok hout] at h
      obtain ⟨k, m, reached, hm, hsaved, hfail⟩ := ih h
      refine ⟨k + 1, m, reached, by simpa using hm, ?_, hfail⟩
      rw [List.take_succ_cons, saveAll, outcome_bind_ok hout, hsaved]

end Saving

end Notebook
