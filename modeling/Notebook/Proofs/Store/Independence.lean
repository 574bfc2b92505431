import Notebook.Proofs.Store.Effects

/-! # Notes that are saved independently

Notes that touch no common path can be saved in any order and in any number of batches.
-/

namespace Notebook

/-! ## What an effect depends on, and what it changes -/

namespace Effect

def paths (e : Effect) : List Text := e.changes.map (·.1)

@[simp] theorem paths_nothing : nothing.paths = [] := rfl

@[simp] theorem paths_counting (r : Report) : (counting r).paths = [] := rfl

@[simp] theorem paths_taking (path : Text) (stored : Option Note) : (taking path stored).paths = [path] := rfl

@[simp] theorem paths_placing (path : Text) (n : Note) : (placing path n).paths = [path] := rfl

@[simp] theorem paths_andThen (e f : Effect) : (e.andThen f).paths = e.paths ++ f.paths := List.map_append

@[simp] theorem mem_paths_merging {n : Note} {stored : Option Note} {path : Text} :
    path ∈ (merging n stored).paths ↔ path = n.path := by
  unfold merging
  cases stored <;> simp

@[simp] theorem mem_paths_replacing {n : Note} {stored : Option Note} {path : Text} :
    path ∈ (replacing n stored).paths ↔ path = n.path := by
  unfold replacing
  cases stored <;> simp

@[simp] theorem mem_paths_deleting {path q : Text} {stored : Option Note} :
    q ∈ (deleting path stored).paths ↔ q = path := by
  unfold deleting
  cases stored <;> simp

end Effect

namespace View

variable {v w : View} {n m : Note} {e f : Effect}

theorem touches_of_mem_paths (h : v.effect? n = some e) {path : Text} (hpath : path ∈ e.paths) :
    n.touches path := by
  unfold effect? at h
  obtain ⟨stored, -, h⟩ := Option.bind_eq_some_iff.1 h
  cases hd : n.directive with
  | insert | merge | replace | unknown _ | delete =>
    simp only [hd, Option.some.injEq] at h
    rw [← h] at hpath
    exact .inl (by simpa using hpath)
  | addOnly =>
    simp only [hd] at h
    split at h
    · rw [← Option.some.inj h, Effect.adding] at hpath
      exact .inl (by simpa using hpath)
    · cases h
  | rename new =>
    simp only [hd] at h
    obtain ⟨target, -, rfl⟩ := Option.map_eq_some_iff.1 h
    rw [Effect.moving] at hpath
    have hpath : path = n.path ∨ path = new := by simpa using hpath
    exact hpath.imp_right fun heq => by rw [hd, heq]

theorem effect?_congr (h : ∀ path, n.touches path → v path = w path) : v.effect? n = w.effect? n := by
  have hread : v.stored? n.path = w.stored? n.path := by rw [stored?, stored?, h n.path (.inl rfl)]
  unfold effect?
  rw [hread]
  cases hd : n.directive with
  | insert | merge | replace | unknown _ | addOnly | delete => rfl
  | rename new =>
    have hnew : v.after [(n.path, none)] new = w.after [(n.path, none)] new :=
      after_congr (h new (.inr hd)) _
    simp only [stored?, hnew]

theorem after_apply_of_not_touches (h : v.effect? n = some e) {path : Text} (hpath : ¬ n.touches path) :
    v.after e.changes path = v path := by
  apply after_apply
  intro change hchange heq
  exact hpath (touches_of_mem_paths h (heq ▸ List.mem_map_of_mem hchange))

end View

/-! ## Notes apart from each other -/

def Note.Apart (n m : Note) : Prop := ∀ path, n.touches path → ¬ m.touches path

namespace Note

theorem Apart.symm {n m : Note} (h : n.Apart m) : m.Apart n := fun path hm hn => h path hn hm

def touched (n : Note) : List Text :=
  match n.directive with
  | .rename path => [n.path, path]
  | _ => [n.path]

theorem mem_touched {n : Note} {path : Text} : path ∈ n.touched ↔ n.touches path := by
  unfold touched touches
  cases n.directive <;> simp [eq_comm]

instance (n m : Note) : Decidable (n.Apart m) :=
  decidable_of_iff (∀ path ∈ n.touched, path ∉ m.touched) (by simp [Apart, mem_touched])

end Note

/-- Effects that cannot be told apart by what is read, by the report, or by which notes are archived. -/
structure Effect.Same (e f : Effect) : Prop where
  after : ∀ v : View, v.after e.changes = v.after f.changes
  report : e.report = f.report
  copies : e.copies.Perm f.copies

theorem Report.add_comm (r r' : Report) : r.add r' = r'.add r := by
  simp [add, Nat.add_comm]

theorem Effect.nothing_andThen (e : Effect) : nothing.andThen e = e := by
  simp [nothing, andThen, Report.zero_add]

theorem Effect.andThen_assoc (e f g : Effect) : (e.andThen f).andThen g = e.andThen (f.andThen g) := by
  simp [andThen, Report.add_assoc]

namespace Effect.Same

variable {e f g e' f' : Effect}

theorem refl (e : Effect) : e.Same e := ⟨fun _ => rfl, rfl, .refl _⟩

theorem trans (h : e.Same f) (h' : f.Same g) : e.Same g :=
  ⟨fun v => (h.after v).trans (h'.after v), h.report.trans h'.report, h.copies.trans h'.copies⟩

theorem andThen (h : e.Same f) (h' : e'.Same f') : (e.andThen e').Same (f.andThen f') where
  after v := by simp only [Effect.andThen, View.after_append, h.after, h'.after]
  report := by simp only [Effect.andThen, h.report, h'.report]
  copies := h.copies.append h'.copies

end Effect.Same

namespace View

variable {v : View} {n m : Note} {e f : Effect}

theorem effect?_after (h : n.Apart m) (he : v.effect? n = some e) :
    (v.after e.changes).effect? m = v.effect? m :=
  effect?_congr fun path hpath => after_apply_of_not_touches he fun hn => h path hn hpath

theorem after_comm_of_apart (h : n.Apart m) (he : v.effect? n = some e) (hf : v.effect? m = some f) (u : View) :
    (u.after e.changes).after f.changes = (u.after f.changes).after e.changes := by
  apply after_comm
  intro c hc d hd heq
  have hn : n.touches c.1 := touches_of_mem_paths he (List.mem_map_of_mem hc)
  have hm : m.touches d.1 := touches_of_mem_paths hf (List.mem_map_of_mem hd)
  rw [← heq] at hm
  exact h c.1 hn hm

theorem same_andThen_comm (h : n.Apart m) (he : v.effect? n = some e) (hf : v.effect? m = some f)
    (g : Effect) : (e.andThen (f.andThen g)).Same (f.andThen (e.andThen g)) where
  after u := by simp only [Effect.andThen, after_append, after_comm_of_apart h he hf u]
  report := by
    simp only [Effect.andThen]
    rw [← Report.add_assoc, Report.add_comm e.report, Report.add_assoc]
  copies := by
    simp only [Effect.andThen, ← List.append_assoc]
    exact List.perm_append_comm.append_right _

theorem effects?_cons {notes : List Note} :
    v.effects? (n :: notes) = some e ↔
      ∃ f g, v.effect? n = some f ∧ (v.after f.changes).effects? notes = some g ∧ f.andThen g = e := by
  simp only [effects?, Option.bind_eq_bind, Option.bind_eq_some_iff, Option.some.injEq, exists_and_left]

theorem effects?_append {notes more : List Note} :
    v.effects? (notes ++ more) = some e ↔
      ∃ f g, v.effects? notes = some f ∧ (v.after f.changes).effects? more = some g ∧ f.andThen g = e := by
  induction notes generalizing v e with
  | nil =>
    rw [List.nil_append]
    constructor
    · intro h
      exact ⟨.nothing, e, rfl, h, Effect.nothing_andThen e⟩
    · rintro ⟨_, g, hnothing, h, rfl⟩
      obtain rfl := Option.some.inj hnothing
      rw [Effect.nothing_andThen]
      exact h
  | cons n rest ih =>
    rw [List.cons_append, effects?_cons]
    constructor
    · rintro ⟨first, _, hfirst, hrest, rfl⟩
      obtain ⟨f, g, hf, hg, rfl⟩ := ih.1 hrest
      refine ⟨first.andThen f, g, effects?_cons.2 ⟨first, f, hfirst, hf, rfl⟩, ?_, Effect.andThen_assoc first f g⟩
      rw [Effect.andThen, after_append]
      exact hg
    · rintro ⟨_, g, hboth, hg, rfl⟩
      obtain ⟨first, f, hfirst, hf, rfl⟩ := effects?_cons.1 hboth
      rw [Effect.andThen, after_append] at hg
      exact ⟨first, f.andThen g, hfirst, ih.2 ⟨f, g, hf, hg, rfl⟩, (Effect.andThen_assoc first f g).symm⟩

theorem effects?_perm {notes more : List Note} (hperm : notes.Perm more) (h : notes.Pairwise Note.Apart)
    (he : v.effects? notes = some e) : ∃ f, v.effects? more = some f ∧ e.Same f := by
  induction hperm generalizing v e with
  | nil => exact ⟨e, he, .refl e⟩
  | @cons n notes more _ ih =>
    obtain ⟨first, rest, hfirst, hrest, rfl⟩ := effects?_cons.1 he
    obtain ⟨f, hf, hsame⟩ := ih (List.pairwise_cons.1 h).2 hrest
    exact ⟨first.andThen f, effects?_cons.2 ⟨first, f, hfirst, hf, rfl⟩, (Effect.Same.refl first).andThen hsame⟩
  | swap n m notes =>
    -- The list is `m, n, ...` before the swap.
    obtain ⟨first, _, hfirst, hothers, rfl⟩ := effects?_cons.1 he
    obtain ⟨second, rest, hsecond, hrest, rfl⟩ := effects?_cons.1 hothers
    have hapart : m.Apart n := (List.pairwise_cons.1 h).1 n (by simp)
    rw [effect?_after hapart hfirst] at hsecond
    have hswapped := effect?_after hapart.symm hsecond
    rw [after_comm_of_apart hapart hfirst hsecond] at hrest
    refine ⟨second.andThen (first.andThen rest), ?_, same_andThen_comm hapart hfirst hsecond rest⟩
    refine effects?_cons.2 ⟨second, first.andThen rest, hsecond, ?_, rfl⟩
    exact effects?_cons.2 ⟨first, rest, hswapped.trans hfirst, hrest, rfl⟩
  | trans hfirst _ ih ih' =>
    obtain ⟨f, hf, hsame⟩ := ih h he
    obtain ⟨g, hg, hsame'⟩ := ih' (hfirst.pairwise h Note.Apart.symm) hf
    exact ⟨g, hg, hsame.trans hsame'⟩

end View

/-! ## Batches in parts -/

namespace Store

/-- Some batches are saved, one after the other. The report is the sum of theirs, and the notes are those that
they copy to the archive. -/
inductive SavesInTurn : Store → List (Surroundings × Notes) → Report → List Note → Store → Prop where
  | nil (s : Store) : SavesInTurn s [] .zero [] s
  | cons {s t : Store} {around : Surroundings} {notes : Notes} {parts : List (Surroundings × Notes)}
      {report total : Report} {copies more : List Note} :
      (s.save around notes).result = .ok report →
      (s.save around notes).archived = copiesText around.stamp copies →
      SavesInTurn (s.save around notes).store parts total more t →
      SavesInTurn s ((around, notes) :: parts) (report.add total) (copies ++ more) t

theorem savesInTurn_of_effects? {s : Store} {parts : List (Surroundings × Notes)} {e : Effect}
    (hopen : ∀ part ∈ parts, part.1.IsOpen) (htexts : s.uniqueTexts = false)
    (h : View.effects? s.contents (parts.flatMap (·.2.inPathOrder)) = some e) :
    ∃ t, SavesInTurn s parts e.report e.copies t ∧ t.contents = View.after s.contents e.changes := by
  induction parts generalizing s e with
  | nil =>
    obtain rfl := Option.some.inj h
    exact ⟨s, .nil s, rfl⟩
  | cons part rest ih =>
    obtain ⟨around, notes⟩ := part
    rw [List.flatMap_cons] at h
    obtain ⟨f, g, hf, hg, rfl⟩ := View.effects?_append.1 h
    have hsaved := savesAs_of_effects? (hopen (around, notes) (.head _)) htexts hf
    rw [← hsaved.contents] at hg
    obtain ⟨t, hturn, ht⟩ := ih (fun part hpart => hopen part (.tail _ hpart))
      (hsaved.uniqueTexts.trans htexts) hg
    refine ⟨t, .cons hsaved.result hsaved.archived hturn, ?_⟩
    rw [ht, hsaved.contents, Effect.andThen, View.after_append]

end Store

/-- Notes that touch no common path and are saved in one batch can as well be saved in any number of batches:
the same is read afterwards, the reports come to the same, and the same notes are archived. -/
theorem save_in_parts {s : Store} {around : Surroundings} {notes : Notes} {parts : List (Surroundings × Notes)}
    {report : Report} (htexts : s.uniqueTexts = false) (hopen : around.IsOpen)
    (hparts : ∀ part ∈ parts, part.1.IsOpen) (hapart : notes.toList.Pairwise Note.Apart)
    (hsplit : (parts.flatMap (·.2.toList)).Perm notes.toList)
    (h : (s.save around notes).result = .ok report) :
    ∃ t copies whole, s.SavesInTurn parts report copies t ∧
      t.contents = (s.save around notes).store.contents ∧
      (s.save around notes).archived = copiesText around.stamp whole ∧ copies.Perm whole := by
  obtain ⟨e, he⟩ := Store.exists_effects?_of_save hopen htexts h
  have hsaved := Store.savesAs_of_effects? hopen htexts he
  have horder : notes.inPathOrder.Perm (parts.flatMap (·.2.inPathOrder)) := by
    have hinner : (parts.flatMap (·.2.inPathOrder)).Perm (parts.flatMap (·.2.toList)) :=
      List.Perm.flatMap_left parts fun part _ => part.2.inPathOrder_perm
    exact notes.inPathOrder_perm.trans (hinner.trans hsplit).symm
  have hpairwise : notes.inPathOrder.Pairwise Note.Apart :=
    notes.inPathOrder_perm.symm.pairwise hapart Note.Apart.symm
  obtain ⟨f, hf, hsame⟩ := View.effects?_perm horder hpairwise he
  obtain ⟨t, hturn, ht⟩ := Store.savesInTurn_of_effects? hparts htexts hf
  obtain rfl : e.report = report := Except.ok.inj (hsaved.result.symm.trans h)
  rw [← hsame.report] at hturn
  refine ⟨t, f.copies, e.copies, hturn, ?_, hsaved.archived, hsame.copies.symm⟩
  rw [ht, hsaved.contents, hsame.after]

def movesOneByOne : List (Surroundings × Notes) :=
  moves.entries.reverse.map fun (key, n) => (undisturbed, .ofList [(key, n)])

theorem save_in_parts_moves :
    ∃ t copies whole, shelf.SavesInTurn movesOneByOne ⟨1, 1, 0, 0, 1, 2⟩ copies t ∧
      t.contents = (shelf.save undisturbed moves).store.contents ∧
      (shelf.save undisturbed moves).archived = copiesText undisturbed.stamp whole ∧ copies.Perm whole := by
  have hopen : undisturbed.IsOpen := ⟨rfl, rfl⟩
  have hparts : ∀ part ∈ movesOneByOne, part.1.IsOpen := by
    intro part hpart
    obtain ⟨e, -, rfl⟩ := List.mem_map.1 hpart
    exact hopen
  have hapart : moves.toList.Pairwise Note.Apart := by decide +kernel
  exact save_in_parts rfl hopen hparts hapart (by decide +kernel) (by decide +kernel)

end Notebook
