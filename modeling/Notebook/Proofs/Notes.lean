import Mathlib.Data.List.Nodup
import Mathlib.Data.List.Perm.Basic
import Notebook.Notes

/-! # Looking up notes by key -/

namespace Notebook

/-! ## Sorting keeps the items -/

theorem insertKeyed_perm {α : Type} (item : Text × α) (items : List (Text × α)) :
    (insertKeyed item items).Perm (item :: items) := by
  induction items with
  | nil => exact .refl _
  | cons other rest ih =>
    rw [insertKeyed]
    split
    · exact (ih.cons other).trans (.swap ..)
    · exact .refl _

theorem sortByKey_perm {α : Type} (key : α → Text) (items : List α) :
    (sortByKey key items).Perm items := by
  have h (keyed : List (Text × α)) : (keyed.foldr insertKeyed []).Perm keyed := by
    induction keyed with
    | nil => exact .refl _
    | cons item rest ih => exact (insertKeyed_perm item _).trans (ih.cons item)
  calc sortByKey key items
    _ = ((items.map fun item => (key item, item)).foldr insertKeyed []).map (·.2) := rfl
    _ |>.Perm ((items.map fun item => (key item, item)).map (·.2)) := (h _).map _
    _ = items := by simp [Function.comp_def]

/-! ## Entries -/

theorem lookup_entry (key k : Text) (n : Note) (rest : List (Text × Note)) :
    ((k, n) :: rest).lookup key = if key = k then some n else rest.lookup key := by
  by_cases h : key = k
  · simp [h]
  · simp [List.lookup_cons, h, beq_eq_false_iff_ne.2 h]

theorem lookup_putEntry (key k : Text) (note : Note) (entries : List (Text × Note)) :
    (putEntry key note entries).lookup k = if k = key then some note else entries.lookup k := by
  fun_induction putEntry key note entries with
  | case1 => rw [lookup_entry]
  | case2 n rest => by_cases h : k = key <;> simp [lookup_entry, h]
  | case3 k' n rest _ _ => rw [lookup_entry]
  | case4 k' n rest hne _ ih =>
    rw [lookup_entry, ih, lookup_entry]
    by_cases h : k = key
    · simp [h, Ne.symm hne]
    · simp [h]

theorem lookup_of_mem {entries : List (Text × Note)} (h : Rising entries) {key : Text} {note : Note}
    (hmem : (key, note) ∈ entries) : entries.lookup key = some note := by
  induction entries with
  | nil => simp at hmem
  | cons e rest ih =>
    obtain ⟨h₁, h₂⟩ := List.pairwise_cons.1 h
    rw [lookup_entry]
    rcases List.mem_cons.1 hmem with rfl | hmem
    · simp
    · have hne : key ≠ e.1 := by
        rintro rfl
        have := h₁ _ hmem
        simp [Text.before_irrefl] at this
      simp [hne, ih h₂ hmem]

namespace Notes

/-! ## Collections -/

@[simp] theorem get?_empty (k : Text) : empty.get? k = none := rfl

@[simp] theorem get?_put (notes : Notes) (key k : Text) (n : Note) :
    (notes.put key n).get? k = if k = key then some n else notes.get? k :=
  lookup_putEntry key k n notes.entries

theorem get?_of_mem {notes : Notes} {key : Text} {n : Note} (h : (key, n) ∈ notes.entries) :
    notes.get? key = some n := lookup_of_mem notes.rising h

theorem ext_entries {a b : Notes} (h : a.entries = b.entries) : a = b := by
  cases a; cases b; simp_all

theorem mem_entries {notes : Notes} {key : Text} {n : Note} :
    (key, n) ∈ notes.entries ↔ notes.get? key = some n := by
  refine ⟨get?_of_mem, fun h => ?_⟩
  have h : notes.entries.lookup key = some n := h
  obtain ⟨front, back, hentries, -⟩ := List.lookup_eq_some_iff.1 h
  simp [hentries]

theorem nodup_entries (notes : Notes) : notes.entries.Nodup := by
  refine notes.rising.imp fun {a b} hab => ?_
  rintro rfl
  simp [Text.before_irrefl] at hab

theorem ext_get? {a b : Notes} (h : ∀ key, a.get? key = b.get? key) : a = b := by
  apply ext_entries
  have hperm : a.entries.Perm b.entries := by
    rw [List.perm_ext_iff_of_nodup a.nodup_entries b.nodup_entries]
    rintro ⟨key, n⟩
    rw [mem_entries, mem_entries, h]
  refine hperm.eq_of_pairwise (fun x y _ _ hxy hyx => ?_) a.rising b.rising
  have := Text.before_trans hxy hyx
  simp [Text.before_irrefl] at this

theorem mem_keys {notes : Notes} {key : Text} : key ∈ notes.keys ↔ ∃ n, notes.get? key = some n := by
  simp [keys, ← mem_entries]

theorem mem_toList {notes : Notes} {n : Note} : n ∈ notes.toList ↔ ∃ key, notes.get? key = some n := by
  simp [toList, ← mem_entries]

theorem inPathOrder_perm (notes : Notes) : notes.inPathOrder.Perm notes.toList := by
  have h : notes.keys.filterMap notes.get? = notes.toList := by
    have found : ∀ e ∈ notes.entries, notes.get? e.1 = some e.2 := fun e he => get?_of_mem he
    rw [keys, toList, List.filterMap_map]
    exact (List.filterMap_congr found).trans (by simp)
  rw [← h]
  exact (sortByKey_perm pathKey notes.keys).filterMap _

theorem mem_inPathOrder {notes : Notes} {n : Note} : n ∈ notes.inPathOrder ↔ n ∈ notes.toList :=
  notes.inPathOrder_perm.mem_iff

/-! ## Notes under their own paths -/

/-- Every note is under its own path. -/
def IsKeyed (notes : Notes) : Prop := ∀ path n, notes.get? path = some n → n.path = path

theorem isKeyed_empty : empty.IsKeyed := by
  intro path n h
  simp at h

theorem IsKeyed.mem_toList {notes : Notes} (h : notes.IsKeyed) {n : Note} :
    n ∈ notes.toList ↔ notes.get? n.path = some n := by
  rw [Notes.mem_toList]
  refine ⟨fun ⟨key, hkey⟩ => ?_, fun hn => ⟨_, hn⟩⟩
  rwa [h key n hkey]

theorem IsKeyed.filter_inPathOrder {notes : Notes} (h : notes.IsKeyed) (path : Text) :
    notes.inPathOrder.filter (·.path = path) = (notes.get? path).toList := by
  have hnodup : notes.inPathOrder.Nodup := by
    rw [notes.inPathOrder_perm.nodup_iff, toList]
    refine List.Nodup.map_on ?_ notes.nodup_entries
    rintro ⟨a, n⟩ ha ⟨b, m⟩ hb (rfl : n = m)
    rw [← h a n (mem_entries.1 ha), ← h b n (mem_entries.1 hb)]
  have hperm : (notes.inPathOrder.filter (·.path = path)).Perm (notes.get? path).toList := by
    rw [List.perm_ext_iff_of_nodup (hnodup.filter _) (by cases notes.get? path <;> simp)]
    intro n
    rw [List.mem_filter, mem_inPathOrder, h.mem_toList, Option.mem_toList]
    constructor
    · rintro ⟨hn, hpath⟩
      obtain rfl : n.path = path := by simpa using hpath
      exact hn
    · intro hn
      obtain rfl : n.path = path := h path n hn
      exact ⟨hn, by simp⟩
  cases hget : notes.get? path with
  | none =>
    rw [hget] at hperm
    exact hperm.eq_nil
  | some n =>
    rw [hget] at hperm
    exact hperm.eq_singleton

/-! ## A single note -/

def single (key : Text) (n : Note) : Notes := empty.put key n

@[simp] theorem put_single (key : Text) (n m : Note) : (single key n).put key m = single key m := by
  apply ext_entries
  simp [single, put, putEntry, empty]

@[simp] theorem get?_single (key k : Text) (n : Note) :
    (single key n).get? k = if k = key then some n else none := by
  simp [single]

@[simp] theorem size_single (key : Text) (n : Note) : (single key n).size = 1 := rfl

@[simp] theorem inPathOrder_single (key : Text) (n : Note) : (single key n).inPathOrder = [n] := by
  have h : sortPaths (single key n).keys = [key] := rfl
  simp [inPathOrder, h]

end Notes

end Notebook
