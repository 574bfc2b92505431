import Notebook.Proofs.Store.Atomic

/-! # The books of a batch

Saving changes the records by removing one and by adding one, time and again. What a report counts, what
the archive receives, and how many records there are afterwards all come from these changes.
-/

namespace Notebook

/-! ## Changes -/

/-- A record is removed, with the note that was read from it, or a note is added. -/
inductive Change where
  | removed (record : RecordRow) (n : Note)
  | added (n : Note)
  deriving DecidableEq, Repr

namespace Change

def removed? : Change → Option Note
  | removed _ n => some n
  | added _ => none

def added? : Change → Option Note
  | removed _ _ => none
  | added n => some n

def removals (changes : List Change) : List Note := changes.filterMap removed?

def additions (changes : List Change) : List Note := changes.filterMap added?

@[simp] theorem removals_nil : removals [] = [] := rfl

@[simp] theorem additions_nil : additions [] = [] := rfl

@[simp] theorem removals_removed (r : RecordRow) (n : Note) (changes : List Change) :
    removals (removed r n :: changes) = n :: removals changes := rfl

@[simp] theorem additions_removed (r : RecordRow) (n : Note) (changes : List Change) :
    additions (removed r n :: changes) = additions changes := rfl

@[simp] theorem removals_added (n : Note) (changes : List Change) :
    removals (added n :: changes) = removals changes := rfl

@[simp] theorem additions_added (n : Note) (changes : List Change) :
    additions (added n :: changes) = n :: additions changes := rfl

@[simp] theorem removals_append (changes more : List Change) :
    removals (changes ++ more) = removals changes ++ removals more := List.filterMap_append

@[simp] theorem additions_append (changes more : List Change) :
    additions (changes ++ more) = additions changes ++ additions more := List.filterMap_append

end Change

open Change

namespace Store

def HasDistinctPaths (s : Store) : Prop := ∀ path, (s.idsAt path).length ≤ 1

/-- What some changes, one after the other, make of a store. Only the one record of a path is removed, and
only where there is none is a note added. -/
inductive Undergoes : Store → List Change → Store → Prop where
  | nil (s : Store) : Undergoes s [] s
  | remove {s t : Store} {r : RecordRow} {n : Note} {changes : List Change} :
      s.recordsAt n.path = [r] → s.contents n.path = .ok (some n) →
      Undergoes (s.delete [r.id]) changes t → Undergoes s (.removed r n :: changes) t
  | add {s mid t : Store} {n : Note} {changes : List Change} :
      s.recordsAt n.path = [] → s.insert n = .ok mid →
      Undergoes mid changes t → Undergoes s (.added n :: changes) t

/-! ## Counting records -/

theorem idsAt_eq_map (s : Store) (path : Text) : s.idsAt path = (s.recordsAt path).map (·.id) := rfl

theorem hasDistinctPaths_of_pairwise {s : Store} (h : s.records.Pairwise fun a b => a.path ≠ b.path) :
    s.HasDistinctPaths := by
  intro path
  have hat : (s.recordsAt path).Pairwise fun a b => a.path ≠ b.path := h.filter _
  have hpath : ∀ r ∈ s.recordsAt path, r.path = .text path := fun r hr => by
    simpa using (List.mem_filter.1 hr).2
  rw [idsAt_eq_map, List.length_map]
  match s.recordsAt path, hat, hpath with
  | [], _, _ => simp
  | [_], _, _ => simp
  | a :: b :: _, hat, hpath =>
    have hne := (List.pairwise_cons.1 hat).1 b (by simp)
    exact absurd ((hpath a (by simp)).trans (hpath b (by simp)).symm) hne

theorem count_delete_idsAt (s : Store) (path : Text) :
    (s.delete (s.idsAt path)).count + (s.recordsAt path).length = s.count := by
  have hsplit := List.length_eq_length_filter_add (l := s.records) fun r => decide (r.id ∈ s.idsAt path)
  rw [recordsAt_eq] at hsplit
  have hkept : (s.delete (s.idsAt path)).count
      = (s.records.filter fun r => !decide (r.id ∈ s.idsAt path)).length := by
    simp [count, delete, deleteTags, deleteRecords]
  rw [hkept, count, hsplit, Nat.add_comm]

theorem count_insert {s t : Store} {n : Note} (h : s.insert n = .ok t) : t.count = s.count + 1 :=
  (records_insert_perm h).length_eq

theorem hasDistinctPaths_delete {s : Store} (h : s.HasDistinctPaths) (ids : List Int) :
    (s.delete ids).HasDistinctPaths := by
  intro path
  refine Nat.le_trans ?_ (h path)
  have hsub : ((s.delete ids).recordsAt path).Sublist (s.recordsAt path) :=
    (List.filter_sublist (l := s.records)).filter _
  simpa [idsAt_eq_map] using hsub.length_le

theorem hasDistinctPaths_insert {s t : Store} {n : Note} (h : s.HasDistinctPaths)
    (hnone : s.recordsAt n.path = []) (ht : s.insert n = .ok t) : t.HasDistinctPaths := by
  intro path
  rw [idsAt_eq_map, List.length_map]
  by_cases hpath : path = n.path
  · rw [hpath, recordsAt_insert_self ht hnone]
    exact Nat.le_refl 1
  · rw [recordsAt_insert_of_ne ht hpath]
    simpa [idsAt_eq_map] using h path

namespace Undergoes

variable {s mid t : Store} {changes more : List Change}

theorem append (h : s.Undergoes changes mid) (hmore : mid.Undergoes more t) : s.Undergoes (changes ++ more) t := by
  induction h with
  | nil s => exact hmore
  | remove hrecord hn _ ih => exact .remove hrecord hn (ih hmore)
  | add hnone hs _ ih => exact .add hnone hs (ih hmore)

theorem hasDistinctPaths (h : s.Undergoes changes t) (hs : s.HasDistinctPaths) : t.HasDistinctPaths := by
  induction h with
  | nil s => exact hs
  | remove _ _ _ ih => exact ih (hasDistinctPaths_delete hs _)
  | add hnone hinsert _ ih => exact ih (hasDistinctPaths_insert hs hnone hinsert)

theorem count_eq (h : s.Undergoes changes t) :
    t.count + (removals changes).length = s.count + (additions changes).length := by
  induction h with
  | nil s => rfl
  | @remove s t r n changes hrecord _ _ ih =>
    have hdelete := s.count_delete_idsAt n.path
    simp only [idsAt_eq_map, hrecord, List.map_cons, List.map_nil, List.length_singleton] at hdelete
    simp only [removals_removed, additions_removed, List.length_cons]
    omega
  | add _ hinsert _ ih =>
    have hcount := count_insert hinsert
    simp only [removals_added, additions_added, List.length_cons]
    omega

end Undergoes

end Store

/-! ## Counting changes -/

namespace Report

theorem zero_add (r : Report) : zero.add r = r := by simp [add, zero]

theorem add_assoc (r r' r'' : Report) : (r.add r').add r'' = r.add (r'.add r'') := by
  simp [add, Nat.add_assoc]

theorem total_add (r r' : Report) : (r.add r').total = r.total + r'.total := by
  simp only [total, add]
  omega

/-- What was archived was removed, and what was inserted, merged or replaced was added. -/
structure Counts (r : Report) (changes : List Change) : Prop where
  removed : r.archived = (removals changes).length
  added : r.inserted + r.merged + r.replaced = (additions changes).length

theorem Counts.append {r r' : Report} {changes more : List Change} (h : r.Counts changes)
    (h' : r'.Counts more) : (r.add r').Counts (changes ++ more) where
  removed := by rw [removals_append, List.length_append, ← h.removed, ← h'.removed, add]
  added := by
    rw [additions_append, List.length_append, ← h.added, ← h'.added]
    simp only [add]
    omega

end Report

/-- From one state of a batch to a later one: the records undergo some changes, the notes that are removed are
archived, and a report counts it all. -/
structure Batch.Books (stamp : Text) (b : Batch) (changes : List Change) (r : Report) (b' : Batch) : Prop where
  store : b.store.Undergoes changes b'.store
  archived : b'.archived = b.archived ++ copiesText stamp (removals changes)
  report : b'.report = b.report.add r
  counts : r.Counts changes

theorem Batch.Books.refl (stamp : Text) (b : Batch) : b.Books stamp [] .zero b :=
  ⟨.nil _, by simp [copiesText], rfl, rfl, rfl⟩

theorem Batch.Books.trans {stamp : Text} {b mid b' : Batch} {changes more : List Change} {r r' : Report}
    (h : b.Books stamp changes r mid) (h' : mid.Books stamp more r' b') :
    b.Books stamp (changes ++ more) (r.add r') b' where
  store := h.store.append h'.store
  archived := by simp [h'.archived, h.archived, copiesText]
  report := by rw [h'.report, h.report, Report.add_assoc]
  counts := h.counts.append h'.counts

/-! ## Directives -/

namespace Note

def renames (n : Note) : Bool :=
  match n.directive with
  | .rename _ => true
  | _ => false

def deletesNothing (n : Note) (s : Store) : Bool := n.directive = .delete && s.idsAt n.path = []

end Note

namespace Saving

variable {around : Surroundings} {stamp : Text} {n : Note} {b mid b' : Batch}

theorem books_count {r : Report} (h : outcome (count r) b = (.ok (), b')) (hr : r.Counts []) :
    b.Books stamp [] r b' := by
  obtain rfl := (Prod.mk.inj h).2
  exact ⟨.nil _, by simp [copiesText], rfl, hr⟩

theorem books_insert_count {r : Report} (h : outcome (insert around n >>= fun _ => count r) b = (.ok (), b'))
    (hnone : b.store.recordsAt n.path = []) (hr : r.Counts [.added n]) : b.Books stamp [.added n] r b' := by
  obtain ⟨_, _, hinsert, hcount⟩ := outcome_bind_eq_ok h
  obtain ⟨s, hs, rfl⟩ := insert_eq_ok hinsert
  obtain rfl := (Prod.mk.inj hcount).2
  exact ⟨.add hnone hs (.nil s), by simp [copiesText], rfl, hr⟩

theorem books_count_insert {r : Report} (h : outcome (count r >>= fun _ => insert around n) b = (.ok (), b'))
    (hnone : b.store.recordsAt n.path = []) (hr : r.Counts [.added n]) : b.Books stamp [.added n] r b' := by
  rw [outcome_bind_ok (outcome_count r b)] at h
  obtain ⟨s, hs, rfl⟩ := insert_eq_ok h
  exact ⟨.add hnone hs (.nil s), by simp [copiesText], rfl, hr⟩

theorem books_take {path : Text} {stored : Option Note} (hpaths : b.store.HasDistinctPaths)
    (h : outcome (take around path) b = (.ok stored, mid)) :
    (∃ changes, b.Books around.stamp changes { Report.zero with archived := stored.toList.length } mid) ∧
      mid.store.recordsAt path = [] := by
  have ht := take_taken around path b
  rw [h] at ht
  cases ht with
  | nothing hnone => exact ⟨⟨[], .refl _ _⟩, Store.idsAt_eq_nil.1 (Store.contents_eq_none.1 hnone)⟩
  | @taken n hsome _ _ =>
    obtain rfl : n.path = path := (Store.isKept_of_contents hsome).path
    obtain ⟨r, hr⟩ : ∃ r, b.store.recordsAt n.path = [r] := by
      have hone := hpaths n.path
      have hne : b.store.recordsAt n.path ≠ [] := fun hnil => by simp [Store.contents_eq, hnil] at hsome
      rw [Store.idsAt_eq_map, List.length_map] at hone
      exact List.length_eq_one_iff.1 (Nat.le_antisymm hone (List.length_pos_iff.2 hne))
    have hids : b.store.idsAt n.path = [r.id] := by rw [Store.idsAt_eq_map, hr, List.map_singleton]
    refine ⟨⟨[.removed r n], .remove hr hsome ?_, ?_, rfl, rfl, rfl⟩, b.store.recordsAt_delete_self n.path⟩
    · rw [← hids]
      exact .nil _
    · simp [Batch.archiving, copiesText]

def Entered (stamp : Text) (b b' : Batch) (total renamed : Nat) : Prop :=
  ∃ changes r, b.Books stamp changes r b' ∧ r.total = total ∧ r.renamed = renamed

theorem entered_insertOrMerge (hpaths : b.store.HasDistinctPaths)
    (h : outcome (insertOrMerge around n) b = (.ok (), b')) : Entered around.stamp b b' 1 0 := by
  obtain ⟨stored, mid, htake, h⟩ := outcome_bind_eq_ok h
  obtain ⟨⟨changes, hbooks⟩, hnone⟩ := books_take hpaths htake
  cases stored with
  | none => exact ⟨_, _, hbooks.trans (books_insert_count h hnone ⟨rfl, rfl⟩), rfl, rfl⟩
  | some stored =>
    have hkept := Store.isKept_of_contents (take_eq_ok htake).1
    simp only [Note.merge_eq_ok hkept.path] at h
    have hfree : mid.store.recordsAt (stored.join n).path = [] := by rw [Note.join_path, hkept.path, hnone]
    exact ⟨_, _, hbooks.trans (books_insert_count h hfree ⟨rfl, rfl⟩), rfl, rfl⟩

theorem entered_replace (hpaths : b.store.HasDistinctPaths)
    (h : outcome (replace around n) b = (.ok (), b')) : Entered around.stamp b b' 1 0 := by
  obtain ⟨stored, mid, htake, h⟩ := outcome_bind_eq_ok h
  obtain ⟨⟨changes, hbooks⟩, hnone⟩ := books_take hpaths htake
  cases stored with
  | none | some _ => exact ⟨_, _, hbooks.trans (books_count_insert h hnone ⟨rfl, rfl⟩), rfl, rfl⟩

theorem entered_addOnly (h : outcome (addOnly around n) b = (.ok (), b')) : Entered stamp b b' 1 0 := by
  rw [outcome_addOnly] at h
  split at h
  · split at h
    · rename_i hnone
      exact ⟨_, _, books_insert_count h (Store.idsAt_eq_nil.1 hnone) ⟨rfl, rfl⟩, rfl, rfl⟩
    · simp at h
  · simp at h

theorem entered_delete {path : Text} (hpaths : b.store.HasDistinctPaths)
    (h : outcome (delete around path) b = (.ok (), b')) :
    Entered around.stamp b b' (if b.store.idsAt path = [] then 0 else 1) 0 := by
  obtain ⟨stored, mid, htake, h⟩ := outcome_bind_eq_ok h
  obtain ⟨⟨changes, hbooks⟩, -⟩ := books_take hpaths htake
  have hread := (take_eq_ok htake).1
  cases stored with
  | none =>
    rw [if_pos (Store.contents_eq_none.1 hread)]
    obtain rfl := (Prod.mk.inj h).2
    exact ⟨_, _, hbooks, rfl, rfl⟩
  | some stored =>
    have hused : b.store.idsAt path ≠ [] := fun hnil => by
      simp [Store.contents_eq_none.2 hnil] at hread
    rw [if_neg hused]
    exact ⟨_, _, hbooks.trans (books_count h ⟨rfl, rfl⟩), rfl, rfl⟩

theorem entered_rename {path : Text} (hpaths : b.store.HasDistinctPaths)
    (h : outcome (rename around n path) b = (.ok (), b')) : Entered around.stamp b b' 1 1 := by
  obtain ⟨stored, mid, htake, h⟩ := outcome_bind_eq_ok h
  obtain ⟨⟨changes, hbooks⟩, -⟩ := books_take hpaths htake
  obtain ⟨_, counted, hcount, h⟩ := outcome_bind_eq_ok h
  have htaken := hbooks.trans (books_count hcount ⟨rfl, rfl⟩)
  obtain ⟨more, r, hmore, htotal, hrenamed⟩ := entered_insertOrMerge (htaken.store.hasDistinctPaths hpaths) h
  refine ⟨_, _, htaken.trans hmore, ?_, ?_⟩
  · rw [Report.total_add, htotal]
    rfl
  · simp [Report.add, Report.zero, hrenamed]

theorem entered_save (hpaths : b.store.HasDistinctPaths) (h : outcome (save around n) b = (.ok (), b')) :
    Entered around.stamp b b' (1 - (n.deletesNothing b.store).toNat) n.renames.toNat := by
  unfold Note.deletesNothing Note.renames
  cases hd : n.directive with
  | insert | merge =>
    simp only [save, hd] at h
    exact entered_insertOrMerge hpaths h
  | replace =>
    simp only [save, hd] at h
    exact entered_replace hpaths h
  | addOnly =>
    simp only [save, hd] at h
    exact entered_addOnly h
  | delete =>
    simp only [save, hd] at h
    have hdelete := entered_delete hpaths h
    by_cases hnil : b.store.idsAt n.path = [] <;> simpa [hnil] using hdelete
  | rename path =>
    simp only [save, hd] at h
    exact entered_rename hpaths h
  | unknown text =>
    simp only [save, hd] at h
    rw [outcome_bind_ok (outcome_notify ..)] at h
    -- The notice is no part of the books.
    let noted : Batch := { b with notices := b.notices ++ [.unknownDirective n.path text] }
    obtain ⟨changes, r, hbooks, hcounted⟩ := entered_replace (b := noted) hpaths h
    exact ⟨changes, r, ⟨hbooks.store, hbooks.archived, hbooks.report, hbooks.counts⟩, hcounted⟩

end Saving

/-! ## Batches -/

namespace Store

variable {s : Store} {around : Surroundings} {notes : Notes} {report : Report}

def deletesNothing (s : Store) (around : Surroundings) (notes : Notes) (k : Nat) : Bool :=
  notes.inPathOrder[k]?.any (·.deletesNothing (s.save around (notes.first k)).store)

/-- The books after `k` notes: the changes made for each of them, and what they come to. -/
structure BooksAt (s : Store) (around : Surroundings) (notes : Notes) (k : Nat)
    (changes : List (List Change)) (r : Report) : Prop where
  length : changes.length = k
  each : ∀ j c, changes[j]? = some c →
    (s.save around (notes.first j)).store.Undergoes c (s.save around (notes.first (j + 1))).store
  all : ∃ b, Saving.outcome (Saving.saveAll around (notes.first k).inPathOrder) s.newBatch = (.ok (), b) ∧
    s.newBatch.Books around.stamp changes.flatten r b
  total : r.total + (List.range k).countP (s.deletesNothing around notes) = k
  renamed : r.renamed = (notes.inPathOrder.take k).countP Note.renames

theorem BooksAt.succ {k : Nat} {changes : List (List Change)} {r : Report} {n : Note} {b' : Batch}
    (h : s.BooksAt around notes k changes r) (hpaths : s.HasDistinctPaths)
    (hn : notes.inPathOrder[k]? = some n)
    (hsaved : Saving.outcome (Saving.saveAll around (notes.first (k + 1)).inPathOrder) s.newBatch = (.ok (), b')) :
    ∃ more r', s.BooksAt around notes (k + 1) (changes ++ [more]) r' := by
  obtain ⟨b, hb, hbooks⟩ := h.all
  have hstep : Saving.outcome (Saving.save around n) b = (.ok (), b') := by
    have hfirst : (notes.first (k + 1)).inPathOrder = (notes.first k).inPathOrder ++ [n] := by
      rw [Notes.inPathOrder_first, Notes.inPathOrder_first, List.take_add_one, hn, Option.toList_some]
    rw [hfirst, Saving.saveAll_append, Saving.outcome_bind_ok hb] at hsaved
    obtain ⟨_, _, hsave, hnil⟩ := Saving.outcome_bind_eq_ok hsaved
    rwa [(Prod.mk.inj hnil).2] at hsave
  have hstore : (s.save around (notes.first k)).store = b.store := by rw [save_of_saveAll_eq_ok hb]
  have hstore' : (s.save around (notes.first (k + 1))).store = b'.store := by rw [save_of_saveAll_eq_ok hsaved]
  obtain ⟨more, r', hmore, htotal, hrenamed⟩ :=
    Saving.entered_save (hbooks.store.hasDistinctPaths hpaths) hstep
  refine ⟨more, r.add r', by simp [h.length], fun j c hc => ?_, ⟨b', hsaved, ?_⟩, ?_, ?_⟩
  · rcases Nat.lt_or_ge j changes.length with hj | hj
    · rw [List.getElem?_append_left hj] at hc
      exact h.each j c hc
    · obtain rfl : j = k := by
        have := (List.getElem?_eq_some_iff.1 hc).1
        simp only [List.length_append, List.length_singleton] at this
        have := h.length
        omega
      obtain rfl : more = c := by simpa [h.length] using hc
      rw [hstore, hstore']
      exact hmore.store
  · simpa using hbooks.trans hmore
  · have hvain : s.deletesNothing around notes k = n.deletesNothing b.store := by
      simp [deletesNothing, hn, hstore]
    have := h.total
    rw [Report.total_add, htotal, List.range_succ, List.countP_append, List.countP_singleton, hvain]
    cases n.deletesNothing b.store <;> simp <;> omega
  · rw [List.take_add_one, hn, Option.toList_some, List.countP_append, List.countP_singleton, ← h.renamed,
      Report.add, hrenamed]
    cases n.renames <;> rfl

theorem booksAt_first (hpaths : s.HasDistinctPaths) (h : (s.save around notes).result = .ok report) {k : Nat}
    (hk : k ≤ notes.inPathOrder.length) : ∃ changes r, s.BooksAt around notes k changes r := by
  obtain ⟨b, hb, -⟩ := save_eq_ok h
  induction k with
  | zero =>
    have hnone : (notes.first 0).inPathOrder = [] := notes.inPathOrder_first 0
    exact ⟨[], .zero, rfl, by simp, ⟨s.newBatch, by rw [hnone]; rfl, .refl _ _⟩, rfl, rfl⟩
  | succ k ih =>
    obtain ⟨changes, r, hbooks⟩ := ih (Nat.le_of_succ_le hk)
    obtain ⟨b', hb'⟩ := Saving.saveAll_take_eq_ok hb (k + 1)
    rw [← Notes.inPathOrder_first] at hb'
    obtain ⟨more, r', hmore⟩ := hbooks.succ hpaths (List.getElem?_eq_getElem hk) hb'
    exact ⟨_, _, hmore⟩

end Store

/-- What a saved batch reports balances with what it did, note by note: what it removed it archived in that
order, and the number of the records, the total and the moves all follow. -/
theorem save_balances {s : Store} {around : Surroundings} {notes : Notes} {report : Report}
    (hpaths : s.HasDistinctPaths) (h : (s.save around notes).result = .ok report) :
    ∃ changes : List (List Change), changes.length = notes.size ∧
      (∀ k c, changes[k]? = some c →
        (s.save around (notes.first k)).store.Undergoes c (s.save around (notes.first (k + 1))).store) ∧
      s.Undergoes changes.flatten (s.save around notes).store ∧
      (s.save around notes).archived = copiesText around.stamp (removals changes.flatten) ∧
      report.archived = (removals changes.flatten).length ∧
      report.inserted + report.merged + report.replaced = (additions changes.flatten).length ∧
      (s.save around notes).store.count + report.archived
        = s.count + report.inserted + report.merged + report.replaced ∧
      report.total + (List.range notes.size).countP (s.deletesNothing around notes) = notes.size ∧
      report.renamed = notes.toList.countP Note.renames := by
  have hsize : notes.inPathOrder.length = notes.size := by
    rw [notes.inPathOrder_perm.length_eq, Notes.toList, List.length_map, Notes.size]
  obtain ⟨changes, r, hbooks⟩ := Store.booksAt_first hpaths h (Nat.le_of_eq hsize.symm)
  obtain ⟨b, hb, hall⟩ := hbooks.all
  rw [Notes.inPathOrder_first, List.take_of_length_le (Nat.le_of_eq hsize)] at hb
  have hsave := Store.save_of_saveAll_eq_ok hb
  obtain rfl : r = report := by
    rw [hsave, hall.report] at h
    rw [← Except.ok.inj h]
    exact (Report.zero_add r).symm
  have hrenamed := hbooks.renamed
  rw [List.take_of_length_le (Nat.le_of_eq hsize), notes.inPathOrder_perm.countP_eq] at hrenamed
  have hcount := hall.store.count_eq
  have hremoved := hall.counts.removed
  have hadded := hall.counts.added
  refine ⟨changes, hbooks.length, hbooks.each, ?_, ?_, hremoved, hadded, ?_, hbooks.total, hrenamed⟩
  · rw [hsave]
    exact hall.store
  · rw [hsave]
    exact hall.archived
  · rw [hsave]
    change b.store.count + r.archived = s.count + _ + _ + _
    change b.store.count + _ = s.count + _ at hcount
    omega

def tidying : Notes := .ofList [
  ("a".toList, ⟨"a".toList, ["new".toList], [], [], .rename "b".toList⟩),
  ("c".toList, ⟨"c".toList, [], [], [], .delete⟩),
  ("d".toList, ⟨"d".toList, [], [], [], .addOnly⟩)]

theorem save_balances_shelf :
    shelf.HasDistinctPaths ∧ (shelf.save undisturbed tidying).result = .ok ⟨1, 1, 0, 0, 1, 2⟩ ∧
      ∃ changes : List (List Change), changes.length = 3 ∧ (removals changes.flatten).length = 2 ∧
        (shelf.save undisturbed tidying).archived = copiesText undisturbed.stamp (removals changes.flatten) ∧
        2 + (List.range 3).countP (shelf.deletesNothing undisturbed tidying) = 3 := by
  have hpaths : shelf.HasDistinctPaths := Store.hasDistinctPaths_of_pairwise (by decide +kernel)
  have hok : (shelf.save undisturbed tidying).result = .ok ⟨1, 1, 0, 0, 1, 2⟩ := by decide +kernel
  obtain ⟨changes, hlength, -, -, harchived, hremoved, -, -, htotal, -⟩ := save_balances hpaths hok
  exact ⟨hpaths, hok, changes, hlength, hremoved.symm, harchived, htotal⟩

end Notebook
