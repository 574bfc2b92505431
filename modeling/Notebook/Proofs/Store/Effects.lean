import Notebook.Proofs.Store.Balance

/-! # The effect of saving a note

Where the store and the archive can be written, what saving a note does follows from what is read at the
paths that it touches. The rows, their ids and their order have no part in it.
-/

namespace Notebook

/-! ## Effects -/

/-- What is stored anew at some paths, one after the other, what is counted, and what is archived. -/
structure Effect where
  changes : List (Text × Option Note)
  report : Report
  copies : List Note

namespace View

def after (v : View) (changes : List (Text × Option Note)) : View :=
  changes.foldl (fun v change => Function.update v change.1 (.ok change.2)) v

variable {v w : View} {changes more : List (Text × Option Note)} {path : Text}

theorem after_cons (v : View) (change : Text × Option Note) (rest : List (Text × Option Note)) :
    v.after (change :: rest) = after (Function.update v change.1 (.ok change.2)) rest := rfl

theorem after_append (v : View) (changes more : List (Text × Option Note)) :
    v.after (changes ++ more) = (v.after changes).after more := by
  simp only [after, List.foldl_append]

theorem after_apply (h : ∀ change ∈ changes, change.1 ≠ path) : v.after changes path = v path := by
  induction changes generalizing v with
  | nil => rfl
  | cons change rest ih =>
    rw [after_cons, ih fun c hc => h c (by simp [hc])]
    exact Function.update_of_ne (h change (by simp)).symm _ _

theorem after_congr (h : v path = w path) (changes : List (Text × Option Note)) :
    v.after changes path = w.after changes path := by
  induction changes generalizing v w with
  | nil => exact h
  | cons change rest ih =>
    apply ih
    simp only [Function.update_apply, h]

theorem after_comm (h : ∀ c ∈ changes, ∀ d ∈ more, c.1 ≠ d.1) :
    (v.after changes).after more = (v.after more).after changes := by
  funext q
  by_cases hq : ∃ d ∈ more, d.1 = q
  · obtain ⟨d, hd, rfl⟩ := hq
    have hfirst : ∀ c ∈ changes, c.1 ≠ d.1 := fun c hc => h c hc d hd
    rw [after_apply hfirst, after_congr (after_apply hfirst) more]
  · have hmore : ∀ d ∈ more, d.1 ≠ q := fun d hd heq => hq ⟨d, hd, heq⟩
    rw [after_apply hmore, after_congr (after_apply hmore) changes]

end View

namespace Effect

def nothing : Effect := ⟨[], .zero, []⟩

def andThen (e f : Effect) : Effect :=
  ⟨e.changes ++ f.changes, e.report.add f.report, e.copies ++ f.copies⟩

def counting (r : Report) : Effect := ⟨[], r, []⟩

def taking (path : Text) (stored : Option Note) : Effect :=
  ⟨[(path, none)], { Report.zero with archived := stored.toList.length }, stored.toList⟩

def placing (path : Text) (n : Note) : Effect := ⟨[(path, some n.kept)], .zero, []⟩

/-! ## Directives -/

def merging (n : Note) (stored : Option Note) : Effect :=
  (taking n.path stored).andThen <|
    match stored with
    | none => (placing n.path n).andThen (counting { Report.zero with inserted := 1 })
    | some m => (placing n.path (m.join n)).andThen (counting { Report.zero with merged := 1 })

def replacing (n : Note) (stored : Option Note) : Effect :=
  (taking n.path stored).andThen <|
    match stored with
    | none => (counting { Report.zero with inserted := 1 }).andThen (placing n.path n)
    | some _ => (counting { Report.zero with replaced := 1 }).andThen (placing n.path n)

def adding (n : Note) : Effect :=
  (placing n.path n).andThen (counting { Report.zero with inserted := 1 })

def deleting (path : Text) (stored : Option Note) : Effect :=
  (taking path stored).andThen <|
    match stored with
    | none => nothing
    | some _ => counting { Report.zero with deleted := 1 }

/-- What is stored at the new path is looked up when the old one was taken. -/
def moving (n : Note) (path : Text) (stored target : Option Note) : Effect :=
  (taking n.path stored).andThen <|
    (counting { Report.zero with renamed := 1 }).andThen (merging { n with path := path } target)

end Effect

namespace View

def stored? (v : View) (path : Text) : Option (Option Note) := (v path).toOption

def effect? (v : View) (n : Note) : Option Effect := do
  let stored ← v.stored? n.path
  match n.directive with
  | .insert | .merge => some (.merging n stored)
  | .replace | .unknown _ => some (.replacing n stored)
  | .addOnly => if stored.isNone then some (.adding n) else none
  | .delete => some (.deleting n.path stored)
  | .rename path => ((v.after [(n.path, none)]).stored? path).map (.moving n path stored)

def effects? (v : View) : List Note → Option Effect
  | [] => some .nothing
  | n :: rest => do
    let e ← v.effect? n
    let f ← (v.after e.changes).effects? rest
    some (e.andThen f)

end View

/-! ## Effects on a batch -/

structure Effect.Leads (e : Effect) (stamp : Text) (b b' : Batch) : Prop where
  contents : b'.store.contents = View.after b.store.contents e.changes
  report : b'.report = b.report.add e.report
  archived : b'.archived = b.archived ++ copiesText stamp e.copies
  uniqueTexts : b'.store.uniqueTexts = b.store.uniqueTexts

namespace Effect

variable {e f : Effect} {stamp : Text} {b mid b' : Batch}

theorem leads_nothing (stamp : Text) (b : Batch) : nothing.Leads stamp b b :=
  ⟨rfl, rfl, by simp [nothing, copiesText], rfl⟩

theorem Leads.andThen (h : e.Leads stamp b mid) (h' : f.Leads stamp mid b') :
    (e.andThen f).Leads stamp b b' where
  contents := by rw [h'.contents, h.contents, Effect.andThen, View.after_append]
  report := by rw [h'.report, h.report, Report.add_assoc, Effect.andThen]
  archived := by simp [h'.archived, h.archived, Effect.andThen, copiesText]
  uniqueTexts := h'.uniqueTexts.trans h.uniqueTexts

theorem leads_counting (r : Report) (stamp : Text) (b : Batch) :
    (counting r).Leads stamp b { b with report := b.report.add r } :=
  ⟨rfl, rfl, by simp [counting, copiesText], rfl⟩

end Effect

structure Surroundings.IsOpen (around : Surroundings) : Prop where
  hold : around.hold = .free
  archiveProblem : around.archiveProblem = none

theorem Surroundings.IsOpen.canRead {around : Surroundings} (h : around.IsOpen) :
    around.hold.canRead = true := by
  rw [h.hold]
  rfl

theorem Surroundings.IsOpen.canWrite {around : Surroundings} (h : around.IsOpen) :
    around.hold.canWrite = true := by
  rw [h.hold]
  rfl

theorem Store.insert_succeeds {s : Store} (htexts : s.uniqueTexts = false) {n : Note}
    (hnone : s.contents n.path = .ok none) : ∃ t, s.insert n = .ok t := by
  cases hinsert : s.insert n with
  | ok t => exact ⟨t, rfl⟩
  | error e =>
    unfold Store.insert at hinsert
    split at hinsert
    · rename_i column hviolated
      have := (Store.violated?_eq_some hnone hviolated).2
      simp [htexts] at this
    · cases hinsert

namespace Saving

variable {α β : Type} {around : Surroundings} {b mid b' : Batch}

/-- A step succeeds, and its effect leads to the batch after it. -/
structure Runs (around : Surroundings) (step : Saving α) (b : Batch) (a : α) (e : Effect) (b' : Batch) :
    Prop where
  outcome : outcome step b = (.ok a, b')
  leads : e.Leads around.stamp b b'

def Shows (around : Surroundings) (step : Saving Unit) (b : Batch) : Option Effect → Prop
  | some e => ∃ b', Runs around step b () e b'
  | none => ∃ f b', outcome step b = (.error f, b')

namespace Runs

variable {step : Saving α} {next : α → Saving β} {a : α} {c : β} {e f : Effect}

theorem bind (h : Runs around step b a e mid) (h' : Runs around (next a) mid c f b') :
    Runs around (step >>= next) b c (e.andThen f) b' where
  outcome := by rw [outcome_bind_ok h.outcome, h'.outcome]
  leads := h.leads.andThen h'.leads

theorem pure (around : Surroundings) (a : α) (b : Batch) : Runs around (Pure.pure a) b a .nothing b :=
  ⟨rfl, Effect.leads_nothing around.stamp b⟩

theorem count (around : Surroundings) (r : Report) (b : Batch) :
    Runs around (Saving.count r) b () (.counting r) { b with report := b.report.add r } :=
  ⟨rfl, Effect.leads_counting r around.stamp b⟩

end Runs

theorem take_runs (hopen : around.IsOpen) {path : Text} {stored : Option Note}
    (h : b.store.contents path = .ok stored) :
    ∃ mid, Runs around (take around path) b stored (.taking path stored) mid ∧
      mid.store.contents path = .ok none := by
  have htaken := take_taken around path b
  rcases hout : outcome (take around path) b with ⟨r, mid⟩
  rw [hout] at htaken
  -- Whatever could stop it is ruled out: the store can be read and written, and so can the archive.
  cases htaken with
  | locked hread => simp [hopen.canRead] at hread
  | unreadable herror => simp [h] at herror
  | notArchived _ hproblem => simp [hopen.archiveProblem] at hproblem
  | notDeleted _ _ hwrite => simp [hopen.canWrite] at hwrite
  | nothing hnone =>
    obtain rfl := Except.ok.inj (h.symm.trans hnone)
    refine ⟨_, ⟨hout, ?_⟩, h⟩
    exact ⟨(take_eq_ok hout).2, rfl, by simp [Effect.taking, copiesText], rfl⟩
  | taken hsome _ _ =>
    obtain rfl := Except.ok.inj (h.symm.trans hsome)
    have hcontents := (take_eq_ok hout).2
    refine ⟨_, ⟨hout, ?_⟩, by rw [hcontents, Function.update_self]⟩
    exact ⟨hcontents, rfl, by simp [Effect.taking, copiesText, Batch.archiving], rfl⟩

theorem take_bind_fails (around : Surroundings) {path : Text} {e : Failure} (next : Option Note → Saving α)
    (h : b.store.contents path = .error e) : ∃ f b', outcome (take around path >>= next) b = (.error f, b') := by
  rcases hout : outcome (take around path) b with ⟨f | stored, b'⟩
  · exact ⟨f, b', outcome_bind_error hout⟩
  · rw [(take_eq_ok hout).1] at h
    cases h

section Open

variable (hopen : around.IsOpen) (htexts : b.store.uniqueTexts = false)
include hopen htexts

theorem insert_runs {n : Note} {path : Text} (hpath : n.path = path)
    (hnone : b.store.contents path = .ok none) :
    ∃ b', Runs around (insert around n) b () (.placing path n) b' := by
  subst hpath
  obtain ⟨s, hs⟩ := Store.insert_succeeds htexts hnone
  refine ⟨{ b with store := s }, ?_, ?_⟩
  · rw [outcome_insert, if_pos hopen.canWrite, hs]
  · exact ⟨Store.contents_insert_kept hs hnone, rfl, by simp [Effect.placing, copiesText],
      Store.uniqueTexts_insert hs⟩

theorem insertOrMerge_runs {n : Note} {stored : Option Note} (h : b.store.contents n.path = .ok stored) :
    ∃ b', Runs around (insertOrMerge around n) b () (.merging n stored) b' := by
  obtain ⟨mid, htake, hfree⟩ := take_runs hopen h
  have hmid := htake.leads.uniqueTexts.trans htexts
  cases stored with
  | none =>
    obtain ⟨b', hinsert⟩ := insert_runs hopen hmid rfl hfree
    exact ⟨_, htake.bind (hinsert.bind (.count around _ b'))⟩
  | some m =>
    have hpath : m.path = n.path := (Store.isKept_of_contents h).path
    obtain ⟨b', hinsert⟩ := insert_runs hopen hmid ((m.join_path n).trans hpath) hfree
    refine ⟨{ b' with report := b'.report.add { Report.zero with merged := 1 } }, htake.bind ?_⟩
    simp only [Note.merge_eq_ok hpath]
    exact hinsert.bind (.count around _ b')

theorem replace_runs {n : Note} {stored : Option Note} (h : b.store.contents n.path = .ok stored) :
    ∃ b', Runs around (replace around n) b () (.replacing n stored) b' := by
  obtain ⟨mid, htake, hfree⟩ := take_runs hopen h
  have hmid := htake.leads.uniqueTexts.trans htexts
  have counted (r : Report) : ∃ b', Runs around (count r >>= fun _ => insert around n) mid ()
      ((Effect.counting r).andThen (.placing n.path n)) b' := by
    obtain ⟨b', hinsert⟩ := insert_runs hopen (b := { mid with report := mid.report.add r }) hmid rfl hfree
    exact ⟨b', (Runs.count around r mid).bind hinsert⟩
  cases stored with
  | none | some m =>
    obtain ⟨b', hcounted⟩ := counted _
    exact ⟨b', htake.bind hcounted⟩

theorem addOnly_runs {n : Note} (h : b.store.contents n.path = .ok none) :
    ∃ b', Runs around (addOnly around n) b () (.adding n) b' := by
  obtain ⟨b', hinsert⟩ := insert_runs hopen htexts rfl h
  have hcount := Runs.count around { Report.zero with inserted := 1 } b'
  refine ⟨_, ?_, hinsert.leads.andThen hcount.leads⟩
  rw [outcome_addOnly, if_pos hopen.canRead, if_pos (Store.contents_eq_none.1 h),
    outcome_bind_ok hinsert.outcome]
  exact hcount.outcome

omit htexts in
theorem delete_runs {path : Text} {stored : Option Note} (h : b.store.contents path = .ok stored) :
    ∃ b', Runs around (delete around path) b () (.deleting path stored) b' := by
  obtain ⟨mid, htake, -⟩ := take_runs hopen h
  cases stored with
  | none => exact ⟨mid, htake.bind (.pure around () mid)⟩
  | some m => exact ⟨_, htake.bind (.count around _ mid)⟩

omit htexts in
theorem addOnly_fails {n : Note} (h : b.store.contents n.path ≠ .ok none) :
    ∃ f b', outcome (addOnly around n) b = (.error f, b') := by
  rw [outcome_addOnly, if_pos hopen.canRead, if_neg fun hnil => h (Store.contents_eq_none.2 hnil)]
  exact ⟨_, _, rfl⟩

theorem rename_shows {n : Note} {stored : Option Note} (path : Text)
    (h : b.store.contents n.path = .ok stored) :
    Shows around (rename around n path) b
      (((View.after b.store.contents [(n.path, none)]).stored? path).map (.moving n path stored)) := by
  obtain ⟨mid, htake, -⟩ := take_runs hopen h
  have hcount := Runs.count around { Report.zero with renamed := 1 } mid
  have hmid := htake.leads.uniqueTexts.trans htexts
  have hcontents : mid.store.contents = View.after b.store.contents [(n.path, none)] := htake.leads.contents
  rw [← hcontents, View.stored?]
  cases htarget : mid.store.contents path with
  | error e =>
    obtain ⟨f, b', hfail⟩ := take_bind_fails around _ (b := { mid with report := mid.report.add _ }) htarget
    refine ⟨f, b', ?_⟩
    rw [rename, outcome_bind_ok htake.outcome, outcome_bind_ok hcount.outcome]
    exact hfail
  | ok target =>
    obtain ⟨b', hmerge⟩ := insertOrMerge_runs hopen (b := { mid with report := mid.report.add _ }) hmid
      (n := { n with path := path }) htarget
    exact ⟨b', htake.bind (hcount.bind hmerge)⟩

theorem save_shows (n : Note) : Shows around (save around n) b (View.effect? b.store.contents n) := by
  unfold View.effect? save
  cases hv : b.store.contents n.path with
  | error e =>
    have hstored : View.stored? b.store.contents n.path = none := by rw [View.stored?, hv]; rfl
    rw [hstored]
    cases n.directive with
    | insert | merge | replace | delete | rename _ => exact take_bind_fails around _ hv
    | addOnly => exact addOnly_fails hopen (n := { n with directive := .insert }) (by simp [hv])
    | unknown text =>
      exact take_bind_fails around _ (b := { b with notices := b.notices ++ [.unknownDirective n.path text] }) hv
  | ok stored =>
    have hstored : View.stored? b.store.contents n.path = some stored := by rw [View.stored?, hv]; rfl
    rw [hstored]
    cases n.directive with
    | insert | merge => exact insertOrMerge_runs hopen htexts (n := { n with directive := .insert }) hv
    | replace => exact replace_runs hopen htexts (n := { n with directive := .insert }) hv
    | addOnly =>
      cases stored with
      | none => exact addOnly_runs hopen htexts (n := { n with directive := .insert }) hv
      | some m => exact addOnly_fails hopen (n := { n with directive := .insert }) (by simp [hv])
    | delete => exact delete_runs hopen hv
    | rename path => exact rename_shows hopen htexts (n := { n with directive := .insert }) path hv
    | unknown text =>
      -- A notice comes first, and then the note is replaced.
      obtain ⟨b', hrun⟩ := replace_runs hopen (n := { n with directive := .insert })
        (b := { b with notices := b.notices ++ [.unknownDirective n.path text] }) htexts hv
      have hleads := hrun.leads
      exact ⟨b', hrun.outcome, hleads.contents, hleads.report, hleads.archived, hleads.uniqueTexts⟩

theorem saveAll_shows (notes : List Note) :
    Shows around (saveAll around notes) b (View.effects? b.store.contents notes) := by
  induction notes generalizing b with
  | nil => exact ⟨b, .pure around () b⟩
  | cons n rest ih =>
    have hfirst := save_shows hopen htexts n
    unfold View.effects?
    cases heffect : View.effect? b.store.contents n with
    | none =>
      rw [heffect] at hfirst
      obtain ⟨f, b', hfail⟩ := hfirst
      exact ⟨f, b', outcome_bind_error hfail⟩
    | some e =>
      rw [heffect] at hfirst
      obtain ⟨mid, hrun⟩ := hfirst
      have hrest := ih (hrun.leads.uniqueTexts.trans htexts)
      rw [hrun.leads.contents] at hrest
      cases hmore : View.effects? (View.after b.store.contents e.changes) rest with
      | none =>
        rw [hmore] at hrest
        obtain ⟨f, b', hfail⟩ := hrest
        simp only [Option.bind_eq_bind, Option.bind_some, hmore]
        refine ⟨f, b', ?_⟩
        rw [saveAll, outcome_bind_ok hrun.outcome, hfail]
      | some f =>
        rw [hmore] at hrest
        obtain ⟨b', hmore'⟩ := hrest
        simp only [Option.bind_eq_bind, Option.bind_some, hmore]
        exact ⟨b', hrun.bind hmore'⟩

end Open

end Saving

/-! ## Effects of a batch -/

namespace Store

variable {s : Store} {around : Surroundings} {notes : Notes}

/-- A batch is saved, and what is read, reported and archived is as an effect says. -/
structure SavesAs (s : Store) (around : Surroundings) (notes : Notes) (e : Effect) : Prop where
  result : (s.save around notes).result = .ok e.report
  contents : (s.save around notes).store.contents = View.after s.contents e.changes
  archived : (s.save around notes).archived = copiesText around.stamp e.copies
  uniqueTexts : (s.save around notes).store.uniqueTexts = s.uniqueTexts

theorem savesAs_of_effects? (hopen : around.IsOpen) (htexts : s.uniqueTexts = false) {e : Effect}
    (h : View.effects? s.contents notes.inPathOrder = some e) : s.SavesAs around notes e := by
  have hshows := Saving.saveAll_shows hopen (b := s.newBatch) htexts notes.inPathOrder
  change Saving.Shows around _ _ (View.effects? s.contents notes.inPathOrder) at hshows
  rw [h] at hshows
  obtain ⟨b, hrun⟩ := hshows
  have hsave := save_of_saveAll_eq_ok hrun.outcome
  constructor
  · rw [hsave, hrun.leads.report]
    exact congrArg Except.ok (Report.zero_add e.report)
  · rw [hsave]
    exact hrun.leads.contents
  · rw [hsave]
    exact hrun.leads.archived
  · rw [hsave]
    exact hrun.leads.uniqueTexts

theorem exists_effects?_of_save (hopen : around.IsOpen) (htexts : s.uniqueTexts = false) {report : Report}
    (h : (s.save around notes).result = .ok report) :
    ∃ e, View.effects? s.contents notes.inPathOrder = some e := by
  have hshows := Saving.saveAll_shows hopen (b := s.newBatch) htexts notes.inPathOrder
  change Saving.Shows around _ _ (View.effects? s.contents notes.inPathOrder) at hshows
  cases he : View.effects? s.contents notes.inPathOrder with
  | some e => exact ⟨e, rfl⟩
  | none =>
    rw [he] at hshows
    obtain ⟨f, b', hfail⟩ := hshows
    obtain ⟨b, hok, -⟩ := save_eq_ok h
    rw [hok] at hfail
    cases hfail

end Store

end Notebook
