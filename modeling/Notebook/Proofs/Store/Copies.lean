import Notebook.Proofs.Store.Saving

/-! # Copies in the archive

A batch adds nothing to the archive but whole copies of notes that were stored, and every one of them was
stored before the note was saved that made it be taken.
-/

namespace Notebook

def copiesText (stamp : Text) (notes : List Note) : Text := notes.flatMap fun n => (n.stamped stamp).written

namespace Saving

variable {α β : Type} {around : Surroundings}

/-! ## Steps that archive nothing -/

def Silent (step : Saving α) : Prop := ∀ b, (outcome step b).2.archived = b.archived

theorem silent_pure (a : α) : Silent (pure a : Saving α) := fun _ => rfl

theorem silent_throw (e : Failure) : Silent (throw e : Saving α) := fun _ => rfl

theorem silent_count (r : Report) : Silent (count r) := fun _ => rfl

theorem silent_insert (around : Surroundings) (n : Note) : Silent (insert around n) := by
  intro b
  rw [outcome_insert]
  split
  · cases b.store.insert n <;> rfl
  · rfl

theorem Silent.bind {step : Saving α} {next : α → Saving β} (h : Silent step) (hnext : ∀ a, Silent (next a)) :
    Silent (step >>= next) := by
  intro b
  have hstep := h b
  rcases hout : outcome step b with ⟨e | a, mid⟩
  · rw [outcome_bind_error hout]
    rwa [hout] at hstep
  · rw [outcome_bind_ok hout, hnext a mid]
    rwa [hout] at hstep

theorem silent_addOnly (around : Surroundings) (n : Note) : Silent (addOnly around n) := by
  intro b
  rw [outcome_addOnly]
  split
  · split
    · exact (silent_insert around n).bind (fun _ => silent_count _) b
    · rfl
  · rfl

/-! ## Steps that archive -/

/-- From one batch to a later one the archive grows by whole copies of notes stored in `s`. -/
def AddsCopies (stamp : Text) (s : Store) (b b' : Batch) : Prop :=
  ∃ notes, b'.archived = b.archived ++ copiesText stamp notes ∧
    ∀ n ∈ notes, s.contents n.path = .ok (some n)

variable {stamp : Text} {s t : Store} {b mid b' : Batch}

theorem addsCopies_of_eq (h : b'.archived = b.archived) : AddsCopies stamp s b b' :=
  ⟨[], by simp [h, copiesText], by simp⟩

theorem AddsCopies.trans (h : AddsCopies stamp s b mid) (h' : AddsCopies stamp s mid b') :
    AddsCopies stamp s b b' := by
  obtain ⟨first, hfirst, hstored⟩ := h
  obtain ⟨second, hsecond, hstored'⟩ := h'
  refine ⟨first ++ second, by simp [hsecond, hfirst, copiesText], fun n hn => ?_⟩
  exact (List.mem_append.1 hn).elim (hstored n) (hstored' n)

theorem AddsCopies.of_stored (h : AddsCopies stamp t b b')
    (hst : ∀ path n, t.contents path = .ok (some n) → s.contents path = .ok (some n)) :
    AddsCopies stamp s b b' := by
  obtain ⟨notes, hnotes, hstored⟩ := h
  exact ⟨notes, hnotes, fun n hn => hst n.path n (hstored n hn)⟩

theorem addsCopies_archiving {n : Note} {path : Text} (h : b.store.contents path = .ok (some n))
    (hb' : b'.archived = (b.archiving stamp n).archived) : AddsCopies stamp b.store b b' := by
  refine ⟨[n], by simp [hb', Batch.archiving, copiesText], fun m hm => ?_⟩
  rw [List.mem_singleton.1 hm, (Store.isKept_of_contents h).path, h]

theorem take_addsCopies (path : Text) (b : Batch) :
    AddsCopies around.stamp b.store b (outcome (take around path) b).2 := by
  have h := take_taken around path b
  generalize outcome (take around path) b = out at h
  obtain ⟨r, b'⟩ := out
  cases h with
  | locked _ | unreadable _ | nothing _ | notArchived _ _ => exact addsCopies_of_eq rfl
  | notDeleted hn _ _ => exact addsCopies_archiving hn rfl
  | taken hn _ _ => exact addsCopies_archiving hn rfl

theorem stored_of_take {path : Text} {r : Option Note} (h : outcome (take around path) b = (.ok r, mid))
    (q : Text) (n : Note) (hn : mid.store.contents q = .ok (some n)) : b.store.contents q = .ok (some n) := by
  rw [(take_eq_ok h).2] at hn
  by_cases hq : q = path
  · simp [hq] at hn
  · rwa [Function.update_of_ne hq] at hn

/-- What follows the taking of a path archives what is still stored then. -/
theorem take_bind_addsCopies {path : Text} {next : Option Note → Saving β} (b : Batch)
    (hnext : ∀ r mid, outcome (take around path) b = (.ok r, mid) →
      AddsCopies around.stamp mid.store mid (outcome (next r) mid).2) :
    AddsCopies around.stamp b.store b (outcome (take around path >>= next) b).2 := by
  have htaken : AddsCopies around.stamp b.store b (outcome (take around path) b).2 := take_addsCopies path b
  rcases hout : outcome (take around path) b with ⟨e | r, mid⟩
  · rw [outcome_bind_error hout]
    rwa [hout] at htaken
  · rw [outcome_bind_ok hout]
    rw [hout] at htaken
    exact htaken.trans ((hnext r mid hout).of_stored (stored_of_take hout))

theorem take_silent_addsCopies {path : Text} {next : Option Note → Saving β} (b : Batch)
    (hnext : ∀ r, Silent (next r)) :
    AddsCopies around.stamp b.store b (outcome (take around path >>= next) b).2 :=
  take_bind_addsCopies b fun r mid _ => addsCopies_of_eq (hnext r mid)

theorem insertOrMerge_addsCopies (n : Note) (b : Batch) :
    AddsCopies around.stamp b.store b (outcome (insertOrMerge around n) b).2 := by
  refine take_silent_addsCopies b fun r => ?_
  cases r with
  | none => exact (silent_insert around n).bind fun _ => silent_count _
  | some stored =>
    dsimp only
    split
    · exact (silent_insert around _).bind fun _ => silent_count _
    · exact silent_throw _

theorem replace_addsCopies (n : Note) (b : Batch) :
    AddsCopies around.stamp b.store b (outcome (replace around n) b).2 := by
  refine take_silent_addsCopies b fun r => ?_
  cases r with
  | none | some _ => exact (silent_count _).bind fun _ => silent_insert around n

theorem delete_addsCopies (path : Text) (b : Batch) :
    AddsCopies around.stamp b.store b (outcome (delete around path) b).2 := by
  refine take_silent_addsCopies b fun r => ?_
  cases r with
  | none => exact silent_pure ()
  | some _ => exact silent_count _

theorem rename_addsCopies (n : Note) (path : Text) (b : Batch) :
    AddsCopies around.stamp b.store b (outcome (rename around n path) b).2 := by
  refine take_bind_addsCopies b fun r mid _ => ?_
  rw [outcome_bind_ok (outcome_count ..)]
  exact insertOrMerge_addsCopies { n with path := path } _

theorem save_addsCopies (n : Note) (b : Batch) :
    AddsCopies around.stamp b.store b (outcome (save around n) b).2 := by
  unfold save
  cases n.directive with
  | insert | merge => exact insertOrMerge_addsCopies _ b
  | replace => exact replace_addsCopies _ b
  | addOnly => exact addsCopies_of_eq (silent_addOnly around _ b)
  | delete => exact delete_addsCopies _ b
  | rename path => exact rename_addsCopies _ path b
  | unknown text =>
    rw [outcome_bind_ok (outcome_notify ..)]
    exact replace_addsCopies _ _

/-- Whatever a batch archives was stored after some number of its notes were saved. -/
theorem saveAll_copies (around : Surroundings) (notes : List Note) (b : Batch) :
    ∃ copies, (outcome (saveAll around notes) b).2.archived = b.archived ++ copiesText around.stamp copies ∧
      ∀ n ∈ copies, ∃ k mid, outcome (saveAll around (notes.take k)) b = (.ok (), mid) ∧
        mid.store.contents n.path = .ok (some n) := by
  induction notes generalizing b with
  | nil => exact ⟨[], by simp [saveAll, copiesText], by simp⟩
  | cons n rest ih =>
    obtain ⟨first, hfirst, hstored⟩ : AddsCopies around.stamp b.store b (outcome (save around n) b).2 :=
      save_addsCopies n b
    have stored : ∀ m ∈ first, ∃ k mid, outcome (saveAll around ((n :: rest).take k)) b = (.ok (), mid) ∧
        mid.store.contents m.path = .ok (some m) := fun m hm => ⟨0, b, rfl, hstored m hm⟩
    rcases hout : outcome (save around n) b with ⟨e | _, mid⟩
    · rw [saveAll, outcome_bind_error hout]
      rw [hout] at hfirst
      exact ⟨first, hfirst, stored⟩
    · rw [saveAll, outcome_bind_ok hout]
      replace hfirst : mid.archived = b.archived ++ copiesText around.stamp first := by rwa [hout] at hfirst
      obtain ⟨more, hmore, hstored'⟩ := ih mid
      refine ⟨first ++ more, by simp [hmore, hfirst, copiesText], fun m hm => ?_⟩
      rcases List.mem_append.1 hm with hm | hm
      · exact stored m hm
      · obtain ⟨k, reached, hk, hread⟩ := hstored' m hm
        refine ⟨k + 1, reached, ?_, hread⟩
        rw [List.take_succ_cons, saveAll, outcome_bind_ok hout, hk]

end Saving

end Notebook
