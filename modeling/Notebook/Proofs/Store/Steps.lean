import Notebook.Proofs.Store.Saving

/-! # What every step of a batch respects

Whatever its directives and however it ends, a batch only ever takes what is stored at a path, inserts
notes where nothing is stored, and counts what it did. It fails where one of these fails, or at an `add`
whose path is in use.
-/

namespace Notebook.Saving

variable {α β : Type} {around : Surroundings} {R : Batch → Batch → Prop}
  {P : Batch → Option Failure → Batch → Prop}

/-! ## Endings -/

def failure? (result : Except Failure α) : Option Failure :=
  match result with
  | .ok _ => none
  | .error e => some e

@[simp] theorem failure?_ok (a : α) : failure? (.ok a : Except Failure α) = none := rfl

@[simp] theorem failure?_error (e : Failure) : failure? (.error e : Except Failure α) = some e := rfl

/-- What can be said of a batch, the failure of a step from it, and the batch after that step, and is borne
out by the parts of every step. An `add` at a path in use is left aside. -/
structure Covers (around : Surroundings) (P : Batch → Option Failure → Batch → Prop) : Prop where
  refl : ∀ b, P b none b
  trans : ∀ {a b c e}, P a none b → P b e c → P a e c
  noted : ∀ b report notices, P b none { b with report := report, notices := notices }
  taken : ∀ {path b r b'}, Taken around path b r b' → P b (failure? r) b'
  inserted : ∀ {n b s}, b.store.contents n.path = .ok none → b.store.insert n = .ok s →
    P b none { b with store := s }
  refused : ∀ {n b e}, b.store.contents n.path = .ok none → b.store.insert n = .error e → P b (some e) b
  notRead : ∀ b, around.hold.canRead = false → P b (some .databaseLocked) b
  notWritten : ∀ b, around.hold.canWrite = false → P b (some around.hold.writeFailure) b

def Meets (P : Batch → Option Failure → Batch → Prop) (step : Saving α) (b : Batch) : Prop :=
  P b (failure? (outcome step b).1) (outcome step b).2

namespace Covers

theorem bind (h : Covers around P) {step : Saving α} {next : α → Saving β} {b : Batch}
    (hstep : Meets P step b)
    (hnext : ∀ a mid, outcome step b = (.ok a, mid) → Meets P (next a) mid) :
    Meets P (step >>= next) b := by
  unfold Meets at *
  rcases hout : outcome step b with ⟨e | a, mid⟩
  · rw [outcome_bind_error hout]
    rwa [hout] at hstep
  · rw [outcome_bind_ok hout]
    rw [hout] at hstep
    exact h.trans hstep (hnext a mid hout)

theorem count (h : Covers around P) (r : Report) (b : Batch) : Meets P (Saving.count r) b :=
  h.noted b (b.report.add r) b.notices

theorem take (h : Covers around P) (path : Text) (b : Batch) : Meets P (Saving.take around path) b :=
  h.taken (take_taken around path b)

theorem insert (h : Covers around P) {n : Note} {b : Batch} (hnone : b.store.contents n.path = .ok none) :
    Meets P (Saving.insert around n) b := by
  unfold Meets
  rw [outcome_insert]
  split
  · cases hs : b.store.insert n with
    | error e => exact h.refused hnone hs
    | ok s => exact h.inserted hnone hs
  · exact h.notWritten b (by simp_all)

theorem insert_after_take (h : Covers around P) {path : Text} {r : Option Note} {b mid : Batch}
    (htake : outcome (Saving.take around path) b = (.ok r, mid)) {n : Note} (hn : n.path = path) :
    Meets P (Saving.insert around n) mid := by
  apply h.insert
  rw [(take_eq_ok htake).2, hn, Function.update_self]

theorem insertOrMerge (h : Covers around P) (n : Note) (b : Batch) :
    Meets P (Saving.insertOrMerge around n) b := by
  refine h.bind (h.take n.path b) fun r mid htake => ?_
  cases r with
  | none => exact h.bind (h.insert_after_take htake rfl) fun _ counted _ => h.count _ counted
  | some stored =>
    have hkept := Store.isKept_of_contents (take_eq_ok htake).1
    have hpath : (stored.join n).path = n.path := by rw [Note.join_path, hkept.path]
    simp only [Note.merge_eq_ok hkept.path]
    exact h.bind (h.insert_after_take htake hpath) fun _ counted _ => h.count _ counted

theorem replace (h : Covers around P) (n : Note) (b : Batch) : Meets P (Saving.replace around n) b := by
  refine h.bind (h.take n.path b) fun r mid htake => ?_
  have hnone (report : Report) : ({ mid with report := report } : Batch).store.contents n.path = .ok none := by
    rw [(take_eq_ok htake).2, Function.update_self]
  cases r with
  | none | some _ =>
    refine h.bind (h.count _ mid) fun _ counted hcount => h.insert ?_
    rw [← (Prod.mk.inj hcount).2]
    exact hnone _

theorem addOnly (h : Covers around P) {n : Note} {b : Batch}
    (hused : b.store.idsAt n.path ≠ [] → P b (some (.duplicatePath n.path)) b) :
    Meets P (Saving.addOnly around n) b := by
  unfold Meets
  rw [outcome_addOnly]
  split
  · split
    · rename_i hnil
      exact h.bind (h.insert (Store.contents_eq_none.2 hnil)) fun _ counted _ => h.count _ counted
    · exact hused ‹_›
  · exact h.notRead b (by simp_all)

theorem delete (h : Covers around P) (path : Text) (b : Batch) : Meets P (Saving.delete around path) b := by
  refine h.bind (h.take path b) fun r mid _ => ?_
  cases r with
  | none => exact h.refl mid
  | some _ => exact h.count _ mid

theorem rename (h : Covers around P) (n : Note) (path : Text) (b : Batch) :
    Meets P (Saving.rename around n path) b :=
  h.bind (h.take n.path b) fun _ mid _ =>
    h.bind (h.count _ mid) fun _ counted _ => h.insertOrMerge _ counted

theorem save (h : Covers around P) {n : Note} {b : Batch}
    (hused : n.directive = .addOnly → b.store.idsAt n.path ≠ [] → P b (some (.duplicatePath n.path)) b) :
    Meets P (Saving.save around n) b := by
  unfold Saving.save
  cases hd : n.directive with
  | insert | merge => exact h.insertOrMerge _ b
  | replace => exact h.replace _ b
  | addOnly => exact h.addOnly (hused hd)
  | delete => exact h.delete _ b
  | rename path => exact h.rename _ path b
  | unknown text => exact h.bind (h.noted b b.report _) fun _ noted _ => h.replace _ noted

theorem saveAll (h : Covers around P)
    (hused : ∀ path b, b.store.idsAt path ≠ [] → P b (some (.duplicatePath path)) b)
    (notes : List Note) (b : Batch) : Meets P (Saving.saveAll around notes) b := by
  induction notes generalizing b with
  | nil => exact h.refl b
  | cons n rest ih => exact h.bind (h.save fun _ => hused n.path b) fun _ mid _ => ih mid

end Covers

/-! ## Relations between states -/

/-- A relation between a batch and a later state of it that the parts of every step respect. -/
structure Respects (around : Surroundings) (R : Batch → Batch → Prop) : Prop where
  refl : ∀ b, R b b
  trans : ∀ {a b c}, R a b → R b c → R a c
  noted : ∀ b report notices, R b { b with report := report, notices := notices }
  taken : ∀ {path b r b'}, Taken around path b r b' → R b b'
  inserted : ∀ {n b s}, b.store.contents n.path = .ok none → b.store.insert n = .ok s →
    R b { b with store := s }

namespace Respects

/-- A step that fails leaves the batch in a state that it could have come to without failing. -/
theorem covers (h : Respects around R) : Covers around fun b _ b' => R b b' where
  refl := h.refl
  trans := h.trans
  noted := h.noted
  taken := h.taken
  inserted := h.inserted
  refused _ _ := h.refl _
  notRead b _ := h.refl b
  notWritten b _ := h.refl b

theorem saveAll (h : Respects around R) (notes : List Note) (b : Batch) :
    R b (outcome (Saving.saveAll around notes) b).2 :=
  h.covers.saveAll (fun _ b _ => h.refl b) notes b

end Respects

end Notebook.Saving
