import Notebook.Proofs.Store.Saving
import Notebook.Store.Rows

/-! # The store as a map from paths to notes

Saving a batch does to the notes that are read path by path what its directives say, whatever the rows
behind them.
-/

namespace Notebook

/-! ## Views -/

/-- What is read at every path: a note, nothing, or rows that cannot be read. -/
abbrev View := Text → Except Failure (Option Note)

def Note.onto (n : Note) (stored : Option Note) : Note :=
  match stored with
  | none => n
  | some m => m.join n

/-- The paths that saving a note can change. -/
def Note.touches (n : Note) (path : Text) : Prop := path = n.path ∨ n.directive = .rename path

namespace View

def put (v : View) (path : Text) (n : Note) : View := Function.update v path (.ok (some n.normal))

def remove (v : View) (path : Text) : View := Function.update v path (.ok none)

def putOrMerge? (v : View) (n : Note) : Option View :=
  match v n.path with
  | .error _ => none
  | .ok stored => some (v.put n.path (n.onto stored))

/-- The view after a note is saved as its directive says, or none if it cannot be saved: its path must be
readable, and free for an `add`. -/
def save? (v : View) (n : Note) : Option View :=
  match v n.path with
  | .error _ => none
  | .ok stored =>
    match n.directive with
    | .insert | .merge => some (v.put n.path (n.onto stored))
    | .replace | .unknown _ => some (v.put n.path n)
    | .addOnly => if stored.isNone then some (v.put n.path n) else none
    | .delete => some (v.remove n.path)
    | .rename path => (v.remove n.path).putOrMerge? { n with path := path, directive := .insert }

variable {v w : View} {n : Note} {q : Text}

theorem putOrMerge?_apply (h : v.putOrMerge? n = some w) (hq : q ≠ n.path) : w q = v q := by
  unfold putOrMerge? at h
  split at h
  · simp at h
  · rw [← Option.some.inj h, put, Function.update_of_ne hq]

theorem putOrMerge?_plain (v : View) (n : Note) :
    v.putOrMerge? { n with directive := .insert } = v.putOrMerge? n := by
  unfold putOrMerge?
  cases v n.path with
  | error e => rfl
  | ok stored => cases stored <;> rfl

theorem save?_apply (h : v.save? n = some w) (hq : ¬ n.touches q) : w q = v q := by
  have hpath : q ≠ n.path := fun heq => hq (.inl heq)
  have put (m : Note) : v.put n.path m q = v q := by rw [View.put, Function.update_of_ne hpath]
  have removed : v.remove n.path q = v q := by rw [remove, Function.update_of_ne hpath]
  unfold save? at h
  cases hv : v n.path with
  | error e => simp [hv] at h
  | ok stored =>
    cases hd : n.directive with
    | insert | merge | replace | unknown _ =>
      simp only [hv, hd] at h
      rw [← Option.some.inj h, put]
    | addOnly =>
      simp only [hv, hd] at h
      split at h
      · rw [← Option.some.inj h, put]
      · simp at h
    | delete =>
      simp only [hv, hd] at h
      rw [← Option.some.inj h, removed]
    | rename path =>
      have hnew : q ≠ path := fun heq => hq (.inr (by rw [hd, heq]))
      simp only [hv, hd] at h
      rw [putOrMerge?_apply h hnew, removed]

theorem saveAll?_apply {notes : List Note} (h : notes.foldlM save? v = some w)
    (hq : ∀ n ∈ notes, ¬ n.touches q) : w q = v q := by
  induction notes generalizing v with
  | nil => rw [← Option.some.inj h]
  | cons n rest ih =>
    rw [List.foldlM_cons, Option.bind_eq_bind, Option.bind_eq_some_iff] at h
    obtain ⟨u, hu, hrest⟩ := h
    rw [ih hrest fun m hm => hq m (by simp [hm]), save?_apply hu (hq n (by simp))]

end View

/-! ## Directives -/

namespace Saving

variable {around : Surroundings} {n : Note} {b b' : Batch}

theorem count_view {r : Report} (h : outcome (count r) b = (.ok (), b')) : b'.store = b.store := by
  simp only [outcome_count, Prod.mk.injEq, true_and] at h
  rw [← h]

theorem insert_view (h : outcome (insert around n) b = (.ok (), b'))
    (hnone : b.store.contents n.path = .ok none) (hnan : n.HasNoNaN) :
    b'.store.contents = View.put b.store.contents n.path n := by
  obtain ⟨s, hs, rfl⟩ := insert_eq_ok h
  exact Store.contents_insert hs hnone hnan

theorem insert_after_take {path : Text} {r : Option Note} {mid : Batch}
    (htake : outcome (take around path) b = (.ok r, mid)) {m : Note}
    (h : outcome (insert around m) mid = (.ok (), b')) (hm : m.path = path) (hnan : m.HasNoNaN) :
    b'.store.contents = View.put b.store.contents path m := by
  obtain ⟨-, hmid⟩ := take_eq_ok htake
  rw [insert_view h (by rw [hmid, hm, Function.update_self]) hnan, hmid, hm, View.put, View.put,
    Function.update_idem]

theorem insertOrMerge_view (h : outcome (insertOrMerge around n) b = (.ok (), b')) (hnan : n.HasNoNaN) :
    View.putOrMerge? b.store.contents n = some b'.store.contents := by
  obtain ⟨r, mid, htake, h⟩ := outcome_bind_eq_ok h
  have hread := (take_eq_ok htake).1
  rw [View.putOrMerge?, hread]
  cases r with
  | none =>
    obtain ⟨_, _, hinsert, hcount⟩ := outcome_bind_eq_ok h
    rw [count_view hcount, insert_after_take htake hinsert rfl hnan]
    rfl
  | some stored =>
    have hkept := Store.isKept_of_contents hread
    simp only [Note.merge_eq_ok hkept.path] at h
    obtain ⟨_, _, hinsert, hcount⟩ := outcome_bind_eq_ok h
    have hpath : (stored.join n).path = n.path := by rw [Note.join_path, hkept.path]
    rw [count_view hcount, insert_after_take htake hinsert hpath (hkept.noNaN.join hnan)]
    rfl

theorem replace_view (h : outcome (replace around n) b = (.ok (), b')) (hnan : n.HasNoNaN) :
    (∃ stored, b.store.contents n.path = .ok stored) ∧
      b'.store.contents = View.put b.store.contents n.path n := by
  obtain ⟨r, mid, htake, h⟩ := outcome_bind_eq_ok h
  obtain ⟨hread, hmid⟩ := take_eq_ok htake
  refine ⟨⟨r, hread⟩, ?_⟩
  -- The count, whichever it is, comes between taking and inserting.
  obtain ⟨counted, hcount, hinsert⟩ : ∃ counted, counted.store = mid.store ∧
      outcome (insert around n) counted = (.ok (), b') := by
    cases r with
    | none | some _ =>
      obtain ⟨_, counted, hcount, hinsert⟩ := outcome_bind_eq_ok h
      exact ⟨counted, count_view hcount, hinsert⟩
  rw [insert_view hinsert (by rw [hcount, hmid, Function.update_self]) hnan, hcount, hmid, View.put,
    View.put, Function.update_idem]

theorem addOnly_view (h : outcome (addOnly around n) b = (.ok (), b')) (hnan : n.HasNoNaN) :
    b.store.contents n.path = .ok none ∧ b'.store.contents = View.put b.store.contents n.path n := by
  rw [outcome_addOnly] at h
  split at h
  · split at h
    · rename_i hnil
      obtain ⟨_, _, hinsert, hcount⟩ := outcome_bind_eq_ok h
      have hnone : b.store.contents n.path = .ok none := Store.contents_eq_none.2 hnil
      exact ⟨hnone, by rw [count_view hcount, insert_view hinsert hnone hnan]⟩
    · simp at h
  · simp at h

theorem delete_view {path : Text} (h : outcome (delete around path) b = (.ok (), b')) :
    (∃ stored, b.store.contents path = .ok stored) ∧
      b'.store.contents = View.remove b.store.contents path := by
  obtain ⟨r, mid, htake, h⟩ := outcome_bind_eq_ok h
  obtain ⟨hread, hmid⟩ := take_eq_ok htake
  have hstore : b'.store = mid.store := by
    cases r with
    | none => rw [(Prod.mk.inj h).2]
    | some stored => exact count_view h
  exact ⟨⟨r, hread⟩, by rw [hstore, hmid, View.remove]⟩

theorem rename_view {path : Text} (h : outcome (rename around n path) b = (.ok (), b'))
    (hnan : n.HasNoNaN) :
    (∃ stored, b.store.contents n.path = .ok stored) ∧
      (View.remove b.store.contents n.path).putOrMerge? { n with path := path }
        = some b'.store.contents := by
  obtain ⟨r, mid, htake, h⟩ := outcome_bind_eq_ok h
  obtain ⟨hread, hmid⟩ := take_eq_ok htake
  obtain ⟨_, counted, hcount, h⟩ := outcome_bind_eq_ok h
  refine ⟨⟨r, hread⟩, ?_⟩
  rw [← insertOrMerge_view h hnan, count_view hcount, hmid, View.remove]

theorem save_view (h : outcome (save around n) b = (.ok (), b')) (hnan : n.HasNoNaN) :
    View.save? b.store.contents n = some b'.store.contents := by
  have hplain : ({ n with directive := .insert } : Note).HasNoNaN := hnan
  unfold View.save?
  cases hd : n.directive with
  | insert | merge =>
    simp only [save, hd] at h
    have hview := insertOrMerge_view h hplain
    rw [View.putOrMerge?_plain] at hview
    exact hview
  | replace =>
    simp only [save, hd] at h
    obtain ⟨⟨stored, hread⟩, hview⟩ := replace_view h hplain
    rw [hread, hview]
    rfl
  | addOnly =>
    simp only [save, hd] at h
    obtain ⟨hread, hview⟩ := addOnly_view h hplain
    rw [hread, hview]
    rfl
  | delete =>
    simp only [save, hd] at h
    obtain ⟨⟨stored, hread⟩, hview⟩ := delete_view h
    rw [hread, hview]
  | rename path =>
    simp only [save, hd] at h
    obtain ⟨⟨stored, hread⟩, hview⟩ := rename_view h hplain
    rw [hread, ← hview]
  | unknown text =>
    simp only [save, hd] at h
    rw [outcome_bind_ok (outcome_notify ..)] at h
    obtain ⟨⟨stored, hread⟩, hview⟩ := replace_view h hplain
    rw [hread, hview]
    rfl

theorem saveAll_view {notes : List Note} (h : outcome (saveAll around notes) b = (.ok (), b'))
    (hnan : ∀ n ∈ notes, n.HasNoNaN) :
    notes.foldlM View.save? b.store.contents = some b'.store.contents := by
  induction notes generalizing b with
  | nil =>
    rw [← (Prod.mk.inj h).2]
    rfl
  | cons n rest ih =>
    obtain ⟨_, mid, hfirst, hrest⟩ := outcome_bind_eq_ok h
    rw [List.foldlM_cons, save_view hfirst (hnan n (by simp))]
    exact ih hrest fun m hm => hnan m (by simp [hm])

end Saving

/-! ## Batches -/

/-- What is read after a batch was saved comes from what was read before, note by note in the order of
the paths; all other paths are read as before. -/
theorem save_refines_view {s : Store} {around : Surroundings} {notes : Notes} {report : Report}
    (hnan : ∀ n ∈ notes.toList, n.HasNoNaN) (h : (s.save around notes).result = .ok report) :
    notes.inPathOrder.foldlM View.save? s.contents = some (s.save around notes).store.contents ∧
      ∀ path, (∀ n ∈ notes.toList, ¬ n.touches path) →
        (s.save around notes).store.contents path = s.contents path := by
  obtain ⟨b, houtcome, hsave⟩ := Store.save_eq_ok h
  have hview : notes.inPathOrder.foldlM View.save? s.contents = some (s.save around notes).store.contents := by
    rw [hsave]
    exact Saving.saveAll_view houtcome fun n hn => hnan n (Notes.mem_inPathOrder.1 hn)
  refine ⟨hview, fun path huntouched => ?_⟩
  exact View.saveAll?_apply hview fun n hn => huntouched n (Notes.mem_inPathOrder.1 hn)

def shelf : Store :=
  let s := Store.fresh.withRecord (.integer 1) (.text "a".toList) (.text "old\n".toList)
  let s := s.withRecord (.integer 2) (.text "b".toList) (.text "text\n".toList)
  let s := s.withTag (.integer 2) (.text "red".toList) .null
  s.withTag (.integer 3) (.text "stray".toList) .null

def moves : Notes := .ofList [
  ("a".toList, ⟨"a".toList, ["new".toList], ["red".toList, "blue".toList], [], .rename "b".toList⟩),
  ("c".toList, ⟨"c".toList, [], [], [("size".toList, .number (.ofNat 3))], .addOnly⟩)]

def undisturbed : Surroundings := ⟨.free, none, "now".toList⟩

theorem save_refines_view_shelf :
    (∀ n ∈ moves.toList, n.HasNoNaN) ∧ (shelf.save undisturbed moves).result = .ok ⟨1, 1, 0, 0, 1, 2⟩ ∧
      moves.inPathOrder.foldlM View.save? shelf.contents
        = some (shelf.save undisturbed moves).store.contents := by
  have hnan : ∀ n ∈ moves.toList, n.HasNoNaN := by decide +kernel
  have hok : (shelf.save undisturbed moves).result = .ok ⟨1, 1, 0, 0, 1, 2⟩ := by decide +kernel
  exact ⟨hnan, hok, (save_refines_view hnan hok).1⟩

end Notebook
