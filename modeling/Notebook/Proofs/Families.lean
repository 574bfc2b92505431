import Notebook.Proofs.PathOrder
import Notebook.Proofs.Store.Saving
import Notebook.Proofs.Text.Lowercase

/-! # Families of paths

A path and the paths below it stand together in the order of paths, and the path itself comes first. So a batch
saves a note before the notes below it.
-/

namespace Notebook

/-! ## Keys -/

/-- What stands for the separator in a key. No character comes before it. -/
def least : Char := '\x00'

theorem pathKey_append_separator (p s : Text) : pathKey (p ++ separator :: s) = pathKey p ++ least :: pathKey s := by
  simp [pathKey, Text.lower_append_separator, least]

theorem Text.eq_or_prefix_of_between {k q s : Text} (h : ¬ q.before k) (h' : ¬ (k ++ least :: s).before q) :
    q = k ∨ k ++ [least] <+: q := by
  induction k generalizing q with
  | nil =>
    cases q with
    | nil => exact .inl rfl
    | cons c q =>
      simp only [List.nil_append, before, Bool.or_eq_true, decide_eq_true_eq, not_or] at h'
      have hcode : c.toNat = least.toNat := Nat.eq_zero_of_not_pos h'.1
      obtain rfl : c = least := by rw [← Char.ofNat_toNat c, hcode, Char.ofNat_toNat]
      exact .inr ⟨q, rfl⟩
  | cons d k ih =>
    cases q with
    | nil => simp [before] at h
    | cons c q =>
      simp only [List.cons_append, before, Bool.or_eq_true, Bool.and_eq_true, decide_eq_true_eq, not_or, not_and]
        at h h'
      have hcode : c.toNat = d.toNat := by omega
      obtain rfl : c = d := by rw [← Char.ofNat_toNat c, hcode, Char.ofNat_toNat]
      rcases ih (h.2 rfl) (h'.2 rfl) with rfl | ⟨more, rfl⟩
      · exact .inl rfl
      · exact .inr ⟨more, rfl⟩

theorem Text.before_append_cons (k : Text) (c : Char) (s : Text) : k.before (k ++ c :: s) := by
  induction k with
  | nil => rfl
  | cons d k ih => simp [before, ih]

/-! ## Families -/

/-- The key of `q` goes on from that of `p` behind a separator. -/
def goesOn (p q : Text) : Bool := (pathKey p ++ [least]).isPrefixOf (pathKey q)

theorem goesOn_iff {p q : Text} : goesOn p q = true ↔ ∃ s, pathKey q = pathKey p ++ least :: s := by
  rw [goesOn, List.isPrefixOf_iff_prefix]
  constructor
  · rintro ⟨s, hs⟩
    exact ⟨s, by rw [← hs, List.append_assoc]; rfl⟩
  · rintro ⟨s, hs⟩
    exact ⟨s, by rw [hs, List.append_assoc]; rfl⟩

/-- Whether `q` belongs to the family of `p`. -/
def isOfFamily (p q : Text) : Bool := pathKey q = pathKey p || goesOn p q

theorem isOfFamily_iff {p q : Text} :
    isOfFamily p q = true ↔ pathKey q = pathKey p ∨ ∃ s, pathKey q = pathKey p ++ least :: s := by
  rw [isOfFamily, Bool.or_eq_true, decide_eq_true_eq, goesOn_iff]

theorem isOfFamily_of_between {p a q b : Text} (ha : isOfFamily p a) (hb : isOfFamily p b)
    (haq : ¬ (pathKey q).before (pathKey a)) (hqb : ¬ (pathKey b).before (pathKey q)) : isOfFamily p q := by
  have hpq : ¬ (pathKey q).before (pathKey p) := by
    rcases isOfFamily_iff.1 ha with ha | ⟨s, hs⟩
    · rwa [← ha]
    · intro hqp
      rw [hs] at haq
      exact haq (Text.before_trans hqp (Text.before_append_cons ..))
  rw [isOfFamily_iff]
  rcases isOfFamily_iff.1 hb with hb | ⟨s, hs⟩
  · left
    by_contra hne
    rw [hb] at hqb
    exact (Text.before_or_before hne).elim hpq hqb
  · rw [hs] at hqb
    refine (Text.eq_or_prefix_of_between hpq hqb).imp_right ?_
    rintro ⟨more, hmore⟩
    exact ⟨more, by rw [← hmore, List.append_assoc]; rfl⟩

/-! ## Blocks of a sorted list -/

section

variable {α : Type} {R : α → α → Prop} {test : α → Bool} {l : List α}

theorem filter_prefix_of_convex (hconvex : ∀ a b c, R a b → R b c → test a → test c → test b) {a : α}
    (ha : test a) (h : (a :: l).Pairwise R) : l.filter test <+: l := by
  induction l with
  | nil => exact List.prefix_refl _
  | cons b rest ih =>
    obtain ⟨hfirst, hrest⟩ := List.pairwise_cons.1 h
    by_cases hb : test b
    · rw [List.filter_cons_of_pos hb]
      have hshort : (a :: rest).Pairwise R :=
        List.pairwise_cons.2 ⟨fun c hc => hfirst c (.tail _ hc), (List.pairwise_cons.1 hrest).2⟩
      exact (List.prefix_cons_inj b).2 (ih hshort)
    · have hnone : rest.filter test = [] := by
        refine List.filter_eq_nil_iff.2 fun c hc htest => hb ?_
        exact hconvex a b c (hfirst b (by simp)) ((List.pairwise_cons.1 hrest).1 c hc) ha htest
      rw [List.filter_cons_of_neg hb, hnone]
      exact List.nil_prefix

theorem filter_infix_of_convex (hconvex : ∀ a b c, R a b → R b c → test a → test c → test b)
    (h : l.Pairwise R) : l.filter test <:+: l := by
  induction l with
  | nil => exact List.infix_refl _
  | cons a rest ih =>
    by_cases ha : test a
    · rw [List.filter_cons_of_pos ha]
      exact ((List.prefix_cons_inj a).2 (filter_prefix_of_convex hconvex ha h)).isInfix
    · rw [List.filter_cons_of_neg ha]
      exact List.infix_cons (ih (List.pairwise_cons.1 h).2)

theorem filter_or_eq_append {first second : α → Bool} (hapart : ∀ a, first a → ¬ second a)
    (h : l.Pairwise fun a b => ¬ (second a ∧ first b)) :
    (l.filter fun a => first a || second a) = l.filter first ++ l.filter second := by
  induction l with
  | nil => rfl
  | cons a rest ih =>
    obtain ⟨hafter, hrest⟩ := List.pairwise_cons.1 h
    by_cases hfirst : first a
    · rw [List.filter_cons_of_pos (by simp [hfirst]), List.filter_cons_of_pos hfirst,
        List.filter_cons_of_neg (hapart a hfirst), ih hrest, List.cons_append]
    · by_cases hsecond : second a
      · have hnone : rest.filter first = [] :=
          List.filter_eq_nil_iff.2 fun b hb hb' => hafter b hb ⟨hsecond, hb'⟩
        rw [List.filter_cons_of_pos (by simp [hsecond]), ih hrest, List.filter_cons_of_neg hfirst, hnone,
          List.filter_cons_of_pos hsecond, List.nil_append, List.nil_append]
      · rw [List.filter_cons_of_neg (by simp [hfirst, hsecond]), List.filter_cons_of_neg hfirst,
          List.filter_cons_of_neg hsecond, ih hrest]

end

/-! ## The order of paths -/

theorem sortByKey_of_forall_eq {α : Type} {key : α → Text} {items : List α} {k : Text}
    (h : ∀ x ∈ items, key x = k) : sortByKey key items = items := by
  have hkeyed : ((items.map fun x => (key x, x)).foldr insertKeyed []) = items.map fun x => (key x, x) := by
    induction items with
    | nil => rfl
    | cons x rest ih =>
      rw [List.map_cons, List.foldr_cons, ih fun y hy => h y (.tail _ hy)]
      refine insertKeyed_of_forall fun e he => ?_
      obtain ⟨y, hy, rfl⟩ := List.mem_map.1 he
      simp [h y (.tail _ hy), h x (by simp), Text.before_irrefl]
  rw [sortByKey, hkeyed]
  simp [Function.comp_def]

/-- A stable permutation in the order of the keys. -/
structure IsSorting (paths sorted : List Text) : Prop where
  perm : sorted.Perm paths
  inOrder : sorted.Pairwise fun p q => ¬ (pathKey q).before (pathKey p)
  stable : ∀ key, (sorted.filter fun p => pathKey p = key) = paths.filter fun p => pathKey p = key

theorem key_of_mem_foldr {α : Type} {key : α → Text} {items : List α} {e : Text × α}
    (h : e ∈ (items.map fun x => (key x, x)).foldr insertKeyed []) : e.1 = key e.2 := by
  induction items with
  | nil => cases h
  | cons x rest ih =>
    rcases List.mem_cons.1 ((insertKeyed_perm _ _).subset h) with rfl | h
    · rfl
    · exact ih h

theorem sortByKey_inOrder {α : Type} (key : α → Text) (items : List α) :
    (sortByKey key items).Pairwise fun a b => ¬ (key b).before (key a) := by
  rw [sortByKey, List.pairwise_map]
  refine (inKeyOrder_foldr_insertKeyed _).imp_of_mem fun ha hb hab => ?_
  rwa [key_of_mem_foldr ha, key_of_mem_foldr hb] at hab

theorem sortPaths_inOrder (paths : List Text) :
    (sortPaths paths).Pairwise fun p q => ¬ (pathKey q).before (pathKey p) := sortByKey_inOrder pathKey paths

theorem isSorting_sortPaths (paths : List Text) : IsSorting paths (sortPaths paths) where
  perm := sortByKey_perm pathKey paths
  inOrder := sortPaths_inOrder paths
  stable key := by
    rw [sortPaths, ← sortByKey_filter]
    exact sortByKey_of_forall_eq fun p hp => by simpa using (List.mem_filter.1 hp).2

/-- The family of a path stands in one block, in which the paths of its own key come first. -/
structure KeepsFamily (p : Text) (sorted : List Text) : Prop where
  block : sorted.filter (isOfFamily p) <:+: sorted
  first : sorted.filter (isOfFamily p) = (sorted.filter fun q => pathKey q = pathKey p) ++ sorted.filter (goesOn p)

theorem keepsFamily_sortPaths (p : Text) (paths : List Text) : KeepsFamily p (sortPaths paths) where
  block := filter_infix_of_convex (fun _ _ _ haq hqb ha hb => isOfFamily_of_between ha hb haq hqb)
    (sortPaths_inOrder paths)
  first := by
    refine filter_or_eq_append (fun q hsame hon => ?_) ((sortPaths_inOrder paths).imp fun {a b} hab => ?_)
    · obtain ⟨s, hs⟩ := goesOn_iff.1 hon
      simp [of_decide_eq_true hsame] at hs
    · rintro ⟨hon, hsame⟩
      obtain ⟨s, hs⟩ := goesOn_iff.1 hon
      rw [of_decide_eq_true hsame, hs] at hab
      exact hab (Text.before_append_cons ..)

/-! ## Ancestors and descendants -/

theorem lower_eq_of_pathKey {p : Text} (h : least ∉ p) :
    p.lower = (pathKey p).map fun c => if c = least then separator else c := by
  have hlower : least ∉ p.lower := fun hmem => h (Text.mem_of_mem_lowerAfter (by decide) hmem)
  rw [pathKey, List.map_map, List.map_congr_left, List.map_id]
  intro c hc
  have hne : c ≠ least := ne_of_mem_of_not_mem hc hlower
  by_cases hsep : c = separator
  · simp [hsep, least]
  · simp [hsep, hne]

/-- Case ignored, `q` lies below `p`. -/
def IsBelow (p q : Text) : Prop := ∃ b s : Text, q = b ++ separator :: s ∧ b.lower = p.lower

theorem same_or_isBelow_of_isOfFamily {p q : Text} (hp : least ∉ p) (hq : least ∉ q) (h : isOfFamily p q) :
    q.lower = p.lower ∨ IsBelow p q := by
  rcases isOfFamily_iff.1 h with h | ⟨s, hs⟩
  · exact .inl (by rw [lower_eq_of_pathKey hq, lower_eq_of_pathKey hp, h])
  · right
    have hlower := lower_eq_of_pathKey hq
    rw [hs, List.map_append, ← lower_eq_of_pathKey hp, List.map_cons, if_pos rfl] at hlower
    obtain ⟨b, rest, hsplit, hb, -⟩ := Text.exists_of_lower_eq hlower
    exact ⟨b, rest, hsplit, hb⟩

section

variable {paths : List Text} {p s : Text} {i j : Nat}

theorem isOfFamily_below (p s : Text) : isOfFamily p (p ++ separator :: s) :=
  isOfFamily_iff.2 (.inr ⟨pathKey s, pathKey_append_separator p s⟩)

theorem lt_of_descendant (hi : (sortPaths paths)[i]? = some p)
    (hj : (sortPaths paths)[j]? = some (p ++ separator :: s)) : i < j := by
  obtain ⟨hi, hpi⟩ := List.getElem?_eq_some_iff.1 hi
  obtain ⟨hj, hpj⟩ := List.getElem?_eq_some_iff.1 hj
  rcases Nat.lt_trichotomy i j with hlt | rfl | hgt
  · exact hlt
  · simp [hpi] at hpj
  · have horder := List.pairwise_iff_getElem.1 (sortPaths_inOrder paths) j i hj hi hgt
    rw [hpi, hpj, pathKey_append_separator] at horder
    exact absurd (Text.before_append_cons ..) horder

theorem not_before_of_le {k : Nat} {q r : Text} (hle : i ≤ k) (hi : (sortPaths paths)[i]? = some q)
    (hk : (sortPaths paths)[k]? = some r) : ¬ (pathKey r).before (pathKey q) := by
  obtain ⟨hi', rfl⟩ := List.getElem?_eq_some_iff.1 hi
  obtain ⟨hk', rfl⟩ := List.getElem?_eq_some_iff.1 hk
  rcases Nat.lt_or_eq_of_le hle with hlt | rfl
  · exact List.pairwise_iff_getElem.1 (sortPaths_inOrder paths) i k hi' hk' hlt
  · simp [Text.before_irrefl]

theorem isOfFamily_between {k : Nat} {q : Text} (hi : (sortPaths paths)[i]? = some p)
    (hj : (sortPaths paths)[j]? = some (p ++ separator :: s)) (hik : i ≤ k) (hkj : k ≤ j)
    (hk : (sortPaths paths)[k]? = some q) : isOfFamily p q := by
  refine isOfFamily_of_between ?_ (isOfFamily_below p s) (not_before_of_le hik hi hk) (not_before_of_le hkj hk hj)
  exact isOfFamily_iff.2 (.inl rfl)

end

/-! ## Batches -/

theorem Notes.inPathOrder_descendant {notes : Notes} {p s : Text} {n m : Note} (hn : notes.get? p = some n)
    (hm : notes.get? (p ++ separator :: s) = some m) :
    ∃ front mid back, notes.inPathOrder = front ++ n :: (mid ++ m :: back) := by
  have hmem {key : Text} {note : Note} (h : notes.get? key = some note) : key ∈ sortPaths notes.keys :=
    (sortByKey_perm pathKey notes.keys).symm.subset (List.mem_map.2 ⟨_, mem_entries.2 h, rfl⟩)
  obtain ⟨i, hi⟩ := List.mem_iff_getElem?.1 (hmem hn)
  obtain ⟨j, hj⟩ := List.mem_iff_getElem?.1 (hmem hm)
  have hlt : i < j := lt_of_descendant hi hj
  obtain ⟨hi', hpi⟩ := List.getElem?_eq_some_iff.1 hi
  obtain ⟨front, hsplit⟩ : ∃ front, sortPaths notes.keys = front ++ p :: (sortPaths notes.keys).drop (i + 1) :=
    ⟨(sortPaths notes.keys).take i, by rw [← hpi, ← List.drop_eq_getElem_cons hi', List.take_append_drop]⟩
  have hlater : p ++ separator :: s ∈ (sortPaths notes.keys).drop (i + 1) := by
    refine List.mem_of_getElem? (i := j - (i + 1)) ?_
    rw [List.getElem?_drop, show i + 1 + (j - (i + 1)) = j by omega, hj]
  obtain ⟨mid, back, hdrop⟩ := List.append_of_mem hlater
  refine ⟨front.filterMap notes.get?, mid.filterMap notes.get?, back.filterMap notes.get?, ?_⟩
  rw [inPathOrder, hsplit, hdrop, List.filterMap_append, List.filterMap_cons_some hn, List.filterMap_append,
    List.filterMap_cons_some hm]

/-! ## Families stay together -/

/-- The order of paths is a stable sorting that keeps every family in one block, its head in front, and the key of
a path below another goes on from that one's. So behind a path come the paths below it, and nothing from outside
its family is among them; and a batch saves a note before those below it. -/
theorem sortPaths_keeps_families :
    (∀ paths, IsSorting paths (sortPaths paths) ∧ ∀ p, KeepsFamily p (sortPaths paths)) ∧
    (∀ p s : Text, pathKey (p ++ separator :: s) = pathKey p ++ least :: pathKey s) ∧
    (∀ paths : List Text, (∀ q ∈ paths, least ∉ q) → ∀ (p s : Text) (i j : Nat), (sortPaths paths)[i]? = some p →
      (sortPaths paths)[j]? = some (p ++ separator :: s) →
        i < j ∧ ∀ k q, i ≤ k → k ≤ j → (sortPaths paths)[k]? = some q → q.lower = p.lower ∨ IsBelow p q) ∧
    ∀ (notes : Notes) (p s : Text) n m, notes.get? p = some n → notes.get? (p ++ separator :: s) = some m →
      ∃ front mid back, notes.inPathOrder = front ++ n :: (mid ++ m :: back) ∧
        ∀ around, Saving.saveAll around notes.inPathOrder = (do
          Saving.saveAll around front
          Saving.save around n
          Saving.saveAll around mid
          Saving.save around m
          Saving.saveAll around back) := by
  refine ⟨fun paths => ⟨isSorting_sortPaths paths, fun p => keepsFamily_sortPaths p paths⟩,
    pathKey_append_separator, fun paths hnul p s i j hi hj => ?_, fun notes p s n m hn hm => ?_⟩
  · refine ⟨lt_of_descendant hi hj, fun k q hik hkj hk => ?_⟩
    have hgiven {r : Text} {place : Nat} (h : (sortPaths paths)[place]? = some r) : least ∉ r :=
      hnul r ((sortByKey_perm pathKey paths).subset (List.mem_of_getElem? h))
    exact same_or_isBelow_of_isOfFamily (hgiven hi) (hgiven hk) (isOfFamily_between hi hj hik hkj hk)
  · obtain ⟨front, mid, back, hsplit⟩ := Notes.inPathOrder_descendant hn hm
    refine ⟨front, mid, back, hsplit, fun around => ?_⟩
    simp only [hsplit, Saving.saveAll_append, Saving.saveAll]

def harbours : List Text :=
  ["a(b)".toList, "a/ΟΣ/x".toList, "b".toList, "A/y".toList, "a".toList, "A".toList]

def cleared : Notes := .ofList [
  ("a/y".toList, ⟨"a/y".toList, [], [], [], .addOnly⟩), ("a".toList, ⟨"a".toList, [], [], [], .delete⟩)]

theorem sortPaths_keeps_families_harbours :
    sortPaths harbours =
      ["a".toList, "A".toList, "A/y".toList, "a/ΟΣ/x".toList, "a(b)".toList, "b".toList] ∧
    (∀ q ∈ harbours, least ∉ q) ∧ (Text.lower "A/y".toList = Text.lower "a".toList ∨ IsBelow "a".toList "A/y".toList) ∧
    cleared.get? "a".toList = some ⟨"a".toList, [], [], [], .delete⟩ ∧
    cleared.get? "a/y".toList = some ⟨"a/y".toList, [], [], [], .addOnly⟩ ∧
    ∃ front mid back, cleared.inPathOrder =
      front ++ ⟨"a".toList, [], [], [], .delete⟩ :: (mid ++ ⟨"a/y".toList, [], [], [], .addOnly⟩ :: back) := by
  obtain ⟨-, -, hbetween, hsaved⟩ := sortPaths_keeps_families
  have hsorted : sortPaths harbours =
      ["a".toList, "A".toList, "A/y".toList, "a/ΟΣ/x".toList, "a(b)".toList, "b".toList] := by
    decide +kernel
  have hnul : ∀ q ∈ harbours, least ∉ q := by decide +kernel
  have hparent : cleared.get? "a".toList = some ⟨"a".toList, [], [], [], .delete⟩ := by decide +kernel
  have hchild : cleared.get? "a/y".toList = some ⟨"a/y".toList, [], [], [], .addOnly⟩ := by decide +kernel
  obtain ⟨-, hfamily⟩ := hbetween harbours hnul "a".toList "ΟΣ/x".toList 0 3
    (by rw [hsorted]; rfl) (by rw [hsorted]; rfl)
  obtain ⟨front, mid, back, hsplit, -⟩ := hsaved cleared "a".toList "y".toList _ _ hparent hchild
  exact ⟨hsorted, hnul, hfamily 2 _ (by omega) (by omega) (by rw [hsorted]; rfl), hparent, hchild,
    front, mid, back, hsplit⟩

end Notebook
