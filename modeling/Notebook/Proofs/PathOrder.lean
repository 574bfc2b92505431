import Notebook.Proofs.Notes

/-! # Sorting by key, and the first notes of a batch

Sorting is stable, so that what is left of a list is sorted as it was among the rest. The first notes of a
batch are therefore a batch of their own that is saved in the same order.
-/

namespace Notebook

/-! ## Sorted items -/

theorem Text.not_before_trans {s t u : Text} (h : ¬ s.before t) (k : ¬ t.before u) : ¬ s.before u := by
  intro hsu
  by_cases hst : s = t
  · exact k (hst ▸ hsu)
  · have hts : t.before s := (Text.before_or_before hst).resolve_left h
    exact k (Text.before_trans hts hsu)

/-- No item has a key before that of an item in front of it. -/
def InKeyOrder {α : Type} (items : List (Text × α)) : Prop :=
  items.Pairwise fun a b => ¬ b.1.before a.1

variable {α : Type} {item : Text × α} {items : List (Text × α)}

theorem inKeyOrder_insertKeyed (h : InKeyOrder items) : InKeyOrder (insertKeyed item items) := by
  unfold InKeyOrder at *
  induction items with
  | nil => simp [insertKeyed]
  | cons other rest ih =>
    obtain ⟨h₁, h₂⟩ := List.pairwise_cons.1 h
    rw [insertKeyed]
    split
    · rename_i hbefore
      refine List.pairwise_cons.2 ⟨fun e he => ?_, ih h₂⟩
      rcases List.mem_cons.1 ((insertKeyed_perm item rest).subset he) with rfl | he
      · intro hback
        have := Text.before_trans hback hbefore
        simp [Text.before_irrefl] at this
      · exact h₁ e he
    · rename_i hnot
      refine List.pairwise_cons.2 ⟨fun e he => ?_, h⟩
      rcases List.mem_cons.1 he with rfl | he
      · exact hnot
      · exact Text.not_before_trans (h₁ e he) hnot

theorem inKeyOrder_foldr_insertKeyed (items : List (Text × α)) :
    InKeyOrder (items.foldr insertKeyed []) := by
  induction items with
  | nil => exact .nil
  | cons item rest ih => exact inKeyOrder_insertKeyed ih

/-! ## Sorting what is left -/

theorem filter_insertKeyed_of_neg {p : Text × α → Bool} (hp : ¬ p item) :
    (insertKeyed item items).filter p = items.filter p := by
  induction items with
  | nil => simp [insertKeyed, hp]
  | cons other rest ih =>
    rw [insertKeyed]
    split
    · rw [List.filter_cons, List.filter_cons, ih]
    · rw [List.filter_cons_of_neg hp]

theorem insertKeyed_of_forall (h : ∀ e ∈ items, ¬ e.1.before item.1) :
    insertKeyed item items = item :: items := by
  cases items with
  | nil => rfl
  | cons other rest => rw [insertKeyed, if_neg (h other (by simp))]

theorem filter_insertKeyed_of_pos {p : Text × α → Bool} (h : InKeyOrder items) (hp : p item) :
    (insertKeyed item items).filter p = insertKeyed item (items.filter p) := by
  induction items with
  | nil => simp [insertKeyed, hp]
  | cons other rest ih =>
    obtain ⟨h₁, h₂⟩ := List.pairwise_cons.1 h
    by_cases hbefore : other.1.before item.1
    · rw [insertKeyed, if_pos hbefore, List.filter_cons, List.filter_cons, ih h₂]
      split
      · rw [insertKeyed, if_pos hbefore]
      · rfl
    · rw [insertKeyed, if_neg hbefore, List.filter_cons_of_pos hp, insertKeyed_of_forall]
      intro e he
      rcases List.mem_cons.1 (List.mem_filter.1 he).1 with rfl | he
      · exact hbefore
      · exact Text.not_before_trans (h₁ e he) hbefore

theorem foldr_insertKeyed_filter (p : Text × α → Bool) (items : List (Text × α)) :
    (items.filter p).foldr insertKeyed [] = (items.foldr insertKeyed []).filter p := by
  induction items with
  | nil => rfl
  | cons item rest ih =>
    rw [List.foldr_cons, List.filter_cons]
    split
    · rename_i hp
      rw [List.foldr_cons, ih, filter_insertKeyed_of_pos (inKeyOrder_foldr_insertKeyed rest) hp]
    · rename_i hp
      rw [ih, filter_insertKeyed_of_neg hp]

theorem sortByKey_filter (key : α → Text) (p : α → Bool) (items : List α) :
    sortByKey key (items.filter p) = (sortByKey key items).filter p := by
  unfold sortByKey
  rw [List.filter_map, ← foldr_insertKeyed_filter, List.filter_map]
  rfl

/-! ## The first notes of a batch -/

namespace Notes

theorem nodup_keys (notes : Notes) : notes.keys.Nodup := by
  rw [keys, List.nodup_iff_pairwise_ne, List.pairwise_map]
  refine notes.rising.imp fun {a b} hab heq => ?_
  rw [heq, Text.before_irrefl] at hab
  simp at hab

def first (notes : Notes) (k : Nat) : Notes :=
  ⟨notes.entries.filter fun e => e.1 ∈ (sortPaths notes.keys).take k, notes.rising.filter _⟩

theorem keys_first (notes : Notes) (k : Nat) :
    (notes.first k).keys = notes.keys.filter fun key => key ∈ (sortPaths notes.keys).take k := by
  rw [keys, keys, first, List.filter_map]
  rfl

theorem get?_first {notes : Notes} {k : Nat} {key : Text} (h : key ∈ (sortPaths notes.keys).take k) :
    (notes.first k).get? key = notes.get? key := by
  apply Option.ext
  intro n
  rw [← mem_entries, ← mem_entries, first, List.mem_filter]
  simp [h]

theorem filter_mem_take [BEq α] [LawfulBEq α] {l : List α} (h : l.Nodup) (k : Nat) :
    (l.filter fun x => x ∈ l.take k) = l.take k := by
  induction l generalizing k with
  | nil => simp
  | cons x rest ih =>
    obtain ⟨hx, hrest⟩ := List.nodup_cons.1 h
    cases k with
    | zero => simp
    | succ k =>
      have others : (rest.filter fun y => y ∈ x :: rest.take k) = rest.filter fun y => y ∈ rest.take k := by
        refine List.filter_congr fun y hy => ?_
        have : y ≠ x := fun heq => hx (heq ▸ hy)
        simp [this]
      rw [List.take_succ_cons, List.filter_cons_of_pos (by simp), others, ih hrest]

theorem sortPaths_first (notes : Notes) (k : Nat) :
    sortPaths (notes.first k).keys = (sortPaths notes.keys).take k := by
  have hnodup : (sortPaths notes.keys).Nodup := (sortByKey_perm pathKey notes.keys).nodup_iff.2 notes.nodup_keys
  rw [keys_first, sortPaths, sortByKey_filter]
  exact filter_mem_take hnodup k

theorem exists_get?_of_mem_sortPaths {notes : Notes} {key : Text} (h : key ∈ sortPaths notes.keys) :
    ∃ n, notes.get? key = some n := by
  have hkey : key ∈ notes.keys := (sortByKey_perm pathKey notes.keys).subset h
  obtain ⟨⟨_, n⟩, hentry, rfl⟩ := List.mem_map.1 hkey
  exact ⟨n, mem_entries.1 hentry⟩

theorem inPathOrder_first (notes : Notes) (k : Nat) :
    (notes.first k).inPathOrder = notes.inPathOrder.take k := by
  have taken (k : Nat) {paths : List Text} (h : ∀ key ∈ paths, key ∈ sortPaths notes.keys) :
      (paths.filterMap notes.get?).take k = (paths.take k).filterMap notes.get? := by
    induction paths generalizing k with
    | nil => simp
    | cons key rest ih =>
      obtain ⟨n, hn⟩ := exists_get?_of_mem_sortPaths (h key (by simp))
      cases k with
      | zero => simp
      | succ k =>
        rw [List.filterMap_cons_some hn, List.take_succ_cons, List.take_succ_cons,
          List.filterMap_cons_some hn, ih k fun key hkey => h key (by simp [hkey])]
  rw [inPathOrder, sortPaths_first, inPathOrder, taken k fun _ h => h]
  exact List.filterMap_congr fun key hkey => get?_first hkey

end Notes

end Notebook
