import Mathlib.Data.List.Basic
import Notebook.Pattern.Matching

/-! # What an expression matches

An expression leads from one place of a text to others, by a relation that follows its form. The sets of
places that a search goes through hold exactly the places to which the expression leads.
-/

namespace Notebook

/-! ## Places of a text -/

namespace Spot

/-- The place between two parts of a text. -/
def between (before rest : Text) : Spot := ⟨before.length, before.getLast?, rest⟩

def IsOf (t : Text) (s : Spot) : Prop := ∃ before rest, t = before ++ rest ∧ s = between before rest

variable {t : Text} {s s' : Spot}

theorem IsOf.eq_of_index (h : s.IsOf t) (h' : s'.IsOf t) (hindex : s.index = s'.index) : s = s' := by
  obtain ⟨before, rest, rfl, rfl⟩ := h
  obtain ⟨before', rest', heq, rfl⟩ := h'
  obtain ⟨rfl, rfl⟩ := List.append_inj heq hindex
  rfl

theorem IsOf.index_add (h : s.IsOf t) : s.index + s.rest.length = t.length := by
  obtain ⟨before, rest, rfl, rfl⟩ := h
  simp [between]

theorem past?_between {wanted : Char → Bool} {before rest : Text} :
    (between before rest).past? wanted = some s' ↔
      ∃ c more, rest = c :: more ∧ wanted c = true ∧ s' = between (before ++ [c]) more := by
  unfold past? between
  cases rest with
  | nil => simp
  | cons c more =>
    by_cases hc : wanted c = true
    · simpa [hc] using eq_comm
    · simp [hc]

end Spot

namespace Spots

structure AreOf (t : Text) (spots : Spots) : Prop where
  isOf : ∀ s ∈ spots, s.IsOf t
  rising : spots.Pairwise fun s s' => s.index < s'.index

variable {t : Text} {s : Spot} {a b : Spots}

theorem areOf_nil (t : Text) : AreOf t [] := ⟨by simp, .nil⟩

theorem AreOf.cons_inv (h : AreOf t (s :: a)) : s.IsOf t ∧ (∀ s' ∈ a, s.index < s'.index) ∧ AreOf t a := by
  obtain ⟨hs, ha⟩ := List.pairwise_cons.1 h.rising
  exact ⟨h.isOf s (by simp), hs, fun s' hs' => h.isOf s' (by simp [hs']), ha⟩

theorem AreOf.cons (hs : s.IsOf t) (hlt : ∀ s' ∈ a, s.index < s'.index) (ha : AreOf t a) : AreOf t (s :: a) :=
  ⟨List.forall_mem_cons.2 ⟨hs, ha.isOf⟩, List.pairwise_cons.2 ⟨hlt, ha.rising⟩⟩

theorem AreOf.filter (h : AreOf t a) (p : Spot → Bool) : AreOf t (a.filter p) :=
  ⟨fun s hs => h.isOf s (List.mem_filter.1 hs).1, h.rising.filter p⟩

theorem AreOf.past (h : AreOf t a) (wanted : Char → Bool) : AreOf t (a.filterMap (·.past? wanted)) where
  isOf s' hs' := by
    obtain ⟨s, hs, hpast⟩ := List.mem_filterMap.1 hs'
    obtain ⟨before, rest, rfl, rfl⟩ := h.isOf s hs
    obtain ⟨c, more, rfl, -, rfl⟩ := Spot.past?_between.1 hpast
    exact ⟨before ++ [c], more, by simp, rfl⟩
  rising := by
    refine h.rising.filterMap _ fun s s' hlt => ?_
    have hindex {s u : Spot} (hu : s.past? wanted = some u) : u.index = s.index + 1 := by
      unfold Spot.past? at hu
      split at hu
      · cases hu
      · split at hu
        · rw [← Option.some.inj hu]
        · cases hu
    intro u hu u' hu'
    rw [hindex hu, hindex hu']
    omega

theorem mem_since (before rest : Text) :
    s ∈ since before.length before.getLast? rest ↔
      ∃ more after, rest = more ++ after ∧ s = Spot.between (before ++ more) after := by
  induction rest generalizing before with
  | nil => simp [since, Spot.between]
  | cons c rest ih =>
    have hnext := ih (before ++ [c])
    rw [List.length_append, List.getLast?_append] at hnext
    simp only [List.length_singleton, List.getLast?_singleton, Option.some_or] at hnext
    rw [since, List.mem_cons, hnext]
    constructor
    · rintro (rfl | ⟨more, after, rfl, rfl⟩)
      · exact ⟨[], c :: rest, rfl, by simp [Spot.between]⟩
      · exact ⟨c :: more, after, rfl, by simp⟩
    · rintro ⟨more, after, heq, rfl⟩
      cases more with
      | nil =>
        obtain rfl : c :: rest = after := heq
        exact .inl (by simp [Spot.between])
      | cons d more =>
        obtain ⟨rfl, rfl⟩ := List.cons.inj heq
        exact .inr ⟨more, after, rfl, by simp⟩

theorem areOf_since (before rest : Text) : AreOf (before ++ rest) (since before.length before.getLast? rest) := by
  refine ⟨fun s hs => ?_, ?_⟩
  · obtain ⟨more, after, rfl, rfl⟩ := (mem_since before rest).1 hs
    exact ⟨before ++ more, after, by simp, rfl⟩
  · have hlow (n : Nat) (last : Option Char) (rest : Text) : ∀ s ∈ since n last rest, n ≤ s.index := by
      induction rest generalizing n last with
      | nil => simp [since]
      | cons c rest ih =>
        refine List.forall_mem_cons.2 ⟨Nat.le_refl n, fun s hs => ?_⟩
        have := ih (n + 1) (some c) s hs
        omega
    generalize before.length = n
    generalize before.getLast? = last
    induction rest generalizing n last with
    | nil => simp [since]
    | cons c rest ih => exact List.pairwise_cons.2 ⟨fun s hs => hlow (n + 1) (some c) rest s hs, ih (n + 1) (some c)⟩

theorem areOf_ofText (t : Text) : AreOf t (ofText t) := areOf_since [] t

theorem mem_ofText : s ∈ ofText t ↔ s.IsOf t := by
  rw [ofText]
  exact (mem_since [] t).trans (by simp [Spot.IsOf])

/-! ## Both sets, and one without the other -/

theorem union_areOf (ha : AreOf t a) (hb : AreOf t b) :
    AreOf t (union a b) ∧ ∀ s, s ∈ union a b ↔ s ∈ a ∨ s ∈ b := by
  fun_induction union a b with
  | case1 => simpa using hb
  | case2 => simpa using ha
  | case3 s a u b hlt ih =>
    obtain ⟨hs, hsa, ha'⟩ := ha.cons_inv
    obtain ⟨-, hub, -⟩ := hb.cons_inv
    obtain ⟨hunion, hmem⟩ := ih ha' hb
    refine ⟨hunion.cons hs fun s' hs' => ?_, fun s' => by simp [hmem, or_assoc]⟩
    rcases (hmem s').1 hs' with hs' | hs'
    · exact hsa s' hs'
    · rcases List.mem_cons.1 hs' with rfl | hs'
      · exact hlt
      · have := hub s' hs'
        omega
  | case4 s a u b _ hlt ih =>
    obtain ⟨-, hsa, -⟩ := ha.cons_inv
    obtain ⟨hu, hub, hb'⟩ := hb.cons_inv
    obtain ⟨hunion, hmem⟩ := ih ha hb'
    refine ⟨hunion.cons hu fun s' hs' => ?_, fun s' => by simp [hmem, or_left_comm]⟩
    rcases (hmem s').1 hs' with hs' | hs'
    · rcases List.mem_cons.1 hs' with rfl | hs'
      · exact hlt
      · have := hsa s' hs'
        omega
    · exact hub s' hs'
  | case5 s a u b hle hge ih =>
    obtain ⟨hs, hsa, ha'⟩ := ha.cons_inv
    obtain ⟨hu, hub, hb'⟩ := hb.cons_inv
    obtain ⟨hunion, hmem⟩ := ih ha' hb'
    -- At one index there is one place only.
    obtain rfl : s = u := hs.eq_of_index hu (by omega)
    refine ⟨hunion.cons hs fun s' hs' => ?_, fun s' => by simp [hmem]; tauto⟩
    exact ((hmem s').1 hs').elim (hsa s') (hub s')

theorem minus_areOf (ha : AreOf t a) (hb : AreOf t b) :
    AreOf t (minus a b) ∧ ∀ s, s ∈ minus a b ↔ s ∈ a ∧ s ∉ b := by
  fun_induction minus a b with
  | case1 => simpa using ha
  | case2 => simpa using ha
  | case3 s a u b hlt ih =>
    obtain ⟨hs, hsa, ha'⟩ := ha.cons_inv
    obtain ⟨-, hub, -⟩ := hb.cons_inv
    obtain ⟨hminus, hmem⟩ := ih ha' hb
    have hfree : s ∉ u :: b := by
      intro hmem
      rcases List.mem_cons.1 hmem with rfl | hmem
      · omega
      · have := hub s hmem
        omega
    refine ⟨hminus.cons hs fun s' hs' => hsa s' ((hmem s').1 hs').1, fun s' => ?_⟩
    rw [List.mem_cons, hmem, List.mem_cons (l := a)]
    constructor
    · rintro (rfl | ⟨hs', hnot⟩)
      · exact ⟨.inl rfl, hfree⟩
      · exact ⟨.inr hs', hnot⟩
    · rintro ⟨rfl | hs', hnot⟩
      · exact .inl rfl
      · exact .inr ⟨hs', hnot⟩
  | case4 s a u b _ hlt ih =>
    obtain ⟨-, hsa, -⟩ := ha.cons_inv
    obtain ⟨-, -, hb'⟩ := hb.cons_inv
    obtain ⟨hminus, hmem⟩ := ih ha hb'
    refine ⟨hminus, fun s' => ?_⟩
    rw [hmem, List.mem_cons (l := b), not_or]
    refine and_congr_right fun hs' => ?_
    have hne : s' ≠ u := by
      rintro rfl
      rcases List.mem_cons.1 hs' with rfl | hs'
      · omega
      · have := hsa s' hs'
        omega
    simp [hne]
  | case5 s a u b hle hge ih =>
    obtain ⟨hs, hsa, ha'⟩ := ha.cons_inv
    obtain ⟨hu, hub, hb'⟩ := hb.cons_inv
    obtain ⟨hminus, hmem⟩ := ih ha' hb'
    obtain rfl : s = u := hs.eq_of_index hu (by omega)
    refine ⟨hminus, fun s' => ?_⟩
    rw [hmem, List.mem_cons (l := a), List.mem_cons (l := b), not_or]
    constructor
    · rintro ⟨hs', hnot⟩
      refine ⟨.inr hs', ?_, hnot⟩
      rintro rfl
      have := hsa s' hs'
      omega
    · rintro ⟨rfl | hs', hne, hnot⟩
      · exact absurd rfl hne
      · exact ⟨hs', hnot⟩

end Spots

/-! ## Steps -/

def Times (R : Spot → Spot → Prop) : Nat → Spot → Spot → Prop
  | 0, s, s' => s' = s
  | n + 1, s, s' => ∃ mid, R s mid ∧ Times R n mid s'

theorem times_add {R : Spot → Spot → Prop} {m n : Nat} {s s' : Spot} :
    Times R (m + n) s s' ↔ ∃ mid, Times R m s mid ∧ Times R n mid s' := by
  induction m generalizing s with
  | zero => simp [Times]
  | succ m ih =>
    rw [Nat.add_right_comm, Times]
    simp only [ih, Times]
    constructor
    · rintro ⟨u, hu, mid, hmid, hrest⟩
      exact ⟨mid, ⟨u, hu, hmid⟩, hrest⟩
    · rintro ⟨mid, ⟨u, hu, hmid⟩, hrest⟩
      exact ⟨u, hu, mid, hmid, hrest⟩

/-- A step on sets of places of a text goes from each of them where a relation leads, which is never back. -/
structure Follows (t : Text) (step : Spots → Spots) (R : Spot → Spot → Prop) : Prop where
  areOf : ∀ {spots : Spots}, spots.AreOf t → (step spots).AreOf t
  mem : ∀ {spots : Spots}, spots.AreOf t → ∀ s', s' ∈ step spots ↔ ∃ s ∈ spots, R s s'
  forward : ∀ {s s' : Spot}, s.IsOf t → R s s' → s.index ≤ s'.index

namespace Follows

variable {t : Text} {step next : Spots → Spots} {R S : Spot → Spot → Prop}

theorem isOf (h : Follows t step R) {s s' : Spot} (hs : s.IsOf t) (hR : R s s') : s'.IsOf t := by
  have hsingle : Spots.AreOf t [s] := (Spots.areOf_nil t).cons hs (by simp)
  exact (h.areOf hsingle).isOf s' ((h.mem hsingle s').2 ⟨s, by simp, hR⟩)

theorem andThen (h : Follows t step R) (h' : Follows t next S) :
    Follows t (fun spots => next (step spots)) fun s s' => ∃ mid, R s mid ∧ S mid s' where
  areOf hspots := h'.areOf (h.areOf hspots)
  mem hspots s' := by
    rw [h'.mem (h.areOf hspots)]
    simp only [h.mem hspots]
    constructor
    · rintro ⟨mid, ⟨s, hs, hR⟩, hS⟩
      exact ⟨s, hs, mid, hR, hS⟩
    · rintro ⟨s, hs, mid, hR, hS⟩
      exact ⟨mid, ⟨s, hs, hR⟩, hS⟩
  forward hs := by
    rintro ⟨mid, hR, hS⟩
    exact Nat.le_trans (h.forward hs hR) (h'.forward (h.isOf hs hR) hS)

theorem either (h : Follows t step R) (h' : Follows t next S) :
    Follows t (fun spots => (step spots).union (next spots)) fun s s' => R s s' ∨ S s s' where
  areOf hspots := (Spots.union_areOf (h.areOf hspots) (h'.areOf hspots)).1
  mem hspots s' := by
    rw [(Spots.union_areOf (h.areOf hspots) (h'.areOf hspots)).2, h.mem hspots, h'.mem hspots]
    simp only [and_or_left, exists_or]
  forward hs hor := hor.elim (h.forward hs) (h'.forward hs)

theorem iterate (h : Follows t step R) (n : Nat) : Follows t (iterate step n) (Times R n) := by
  induction n with
  | zero =>
    refine ⟨fun hspots => hspots, fun _ s' => ?_, fun _ hsame => Nat.le_of_eq (congrArg Spot.index hsame.symm)⟩
    simp [Notebook.iterate, Times]
  | succ n ih =>
    have hboth := h.andThen ih
    refine ⟨fun {spots} hspots => ?_, fun {spots} hspots s' => ?_, hboth.forward⟩
    · rw [Notebook.iterate]
      split
      · exact Spots.areOf_nil t
      · exact hboth.areOf hspots
    · rw [Notebook.iterate]
      split
      · -- From no place nothing is reached, whatever steps are left.
        rename_i hnil
        simp [hnil]
      · exact hboth.mem hspots s'

/-! ## Places that are reached -/

/-- From places that were seen, steps lead to others that were seen, or through new ones. -/
theorem seen_or_new (h : Follows t step R) {fresh seen : Spots} (hfresh : fresh.AreOf t) (hseen : seen.AreOf t)
    (hclosed : ∀ s ∈ seen, s ∉ fresh → ∀ s', R s s' → s' ∈ seen) {k : Nat} {s s' : Spot} (hs : s ∈ seen)
    (hsteps : Times R k s s') :
    s' ∈ seen ∨ ∃ j < k, ∃ mid ∈ (step fresh).minus seen, Times R j mid s' := by
  induction k generalizing s with
  | zero => exact .inl (hsteps ▸ hs)
  | succ k ih =>
    obtain ⟨mid, hmid, hrest⟩ := hsteps
    by_cases hold : mid ∈ seen
    · refine (ih hold hrest).imp_right ?_
      rintro ⟨j, hj, hnew⟩
      exact ⟨j, by omega, hnew⟩
    · have hs : s ∈ fresh := by
        by_contra hnot
        exact hold (hclosed s hs hnot mid hmid)
      have hnew : mid ∈ step fresh := (h.mem hfresh mid).2 ⟨s, hs, hmid⟩
      exact .inr ⟨k, Nat.lt_succ_self k, mid, ((Spots.minus_areOf (h.areOf hfresh) hseen).2 mid).2 ⟨hnew, hold⟩, hrest⟩

theorem reach_spec (h : Follows t step R) (n : Nat) {fresh seen : Spots} (hfresh : fresh.AreOf t)
    (hseen : seen.AreOf t) (hsub : fresh ⊆ seen)
    (hclosed : ∀ s ∈ seen, s ∉ fresh → ∀ s', R s s' → s' ∈ seen) :
    (reach step n fresh seen).AreOf t ∧
      ∀ s', s' ∈ reach step n fresh seen ↔ s' ∈ seen ∨ ∃ k ≤ n, ∃ s ∈ fresh, Times R k s s' := by
  -- A place that is no longer fresh leads only to places that were seen: it can be forgotten.
  induction n generalizing fresh seen with
  | zero =>
    refine ⟨hseen, fun s' => ⟨.inl, ?_⟩⟩
    rintro (hs' | ⟨k, hk, s, hs, hsteps⟩)
    · exact hs'
    · obtain rfl : k = 0 := by omega
      obtain rfl : s' = s := hsteps
      exact hsub hs
  | succ n ih =>
    obtain ⟨hnew, hmem⟩ := Spots.minus_areOf (h.areOf hfresh) hseen
    have hthrough {k : Nat} {s s' : Spot} (hs : s ∈ fresh) (hsteps : Times R k s s') :=
      h.seen_or_new hfresh hseen hclosed (hsub hs) hsteps
    rw [reach]
    split
    · rename_i hnil
      refine ⟨hseen, fun s' => ⟨.inl, ?_⟩⟩
      rintro (hs' | ⟨k, -, s, hs, hsteps⟩)
      · exact hs'
      · rcases hthrough hs hsteps with hs' | ⟨_, _, mid, hmid, _⟩
        · exact hs'
        · simp [hnil] at hmid
    · obtain ⟨hunion, hmem'⟩ := Spots.union_areOf hseen hnew
      obtain ⟨hreach, hreached⟩ := ih hnew hunion (fun s hs => (hmem' s).2 (.inr hs)) <| by
        intro s hs hnot s' hR
        rw [hmem'] at hs ⊢
        have hs := hs.resolve_right hnot
        by_cases hfront : s ∈ fresh
        · by_cases hold : s' ∈ seen
          · exact .inl hold
          · exact .inr ((hmem s').2 ⟨(h.mem hfresh s').2 ⟨s, hfront, hR⟩, hold⟩)
        · exact .inl (hclosed s hs hfront s' hR)
      refine ⟨hreach, fun s' => ?_⟩
      rw [hreached, hmem']
      constructor
      · rintro ((hs' | hs') | ⟨k, hk, mid, hmid, hsteps⟩)
        · exact .inl hs'
        · obtain ⟨s, hs, hR⟩ := (h.mem hfresh s').1 ((hmem s').1 hs').1
          exact .inr ⟨1, by omega, s, hs, s', hR, rfl⟩
        · obtain ⟨s, hs, hR⟩ := (h.mem hfresh mid).1 ((hmem mid).1 hmid).1
          exact .inr ⟨k + 1, by omega, s, hs, mid, hR, hsteps⟩
      · rintro (hs' | ⟨k, hk, s, hs, hsteps⟩)
        · exact .inl (.inl hs')
        · rcases hthrough hs hsteps with hs' | ⟨j, hj, hmid⟩
          · exact .inl (.inl hs')
          · exact .inr ⟨j, by omega, hmid⟩

theorem times_short (h : Follows t step R) {k : Nat} {s s' : Spot} (hs : s.IsOf t) (hsteps : Times R k s s') :
    ∃ j, s.index + j ≤ s'.index ∧ j ≤ k ∧ Times R j s s' := by
  induction k generalizing s with
  | zero => exact ⟨0, Nat.le_of_eq (congrArg Spot.index hsteps.symm), Nat.le_refl 0, hsteps⟩
  | succ k ih =>
    obtain ⟨mid, hmid, hrest⟩ := hsteps
    obtain ⟨j, hindex, hj, hshort⟩ := ih (h.isOf hs hmid) hrest
    have hforward := h.forward hs hmid
    by_cases hstay : mid.index = s.index
    · obtain rfl : mid = s := (h.isOf hs hmid).eq_of_index hs hstay
      exact ⟨j, hindex, by omega, hshort⟩
    · exact ⟨j + 1, by omega, by omega, mid, hmid, hshort⟩

end Follows

/-! ## Expressions -/

namespace Pattern

def Leads : Pattern → Spot → Spot → Prop
  | empty, s, s' => s' = s
  | letter anyCase c, s, s' => s.past? (fun d => if anyCase then sameLetter c d else c = d) = some s'
  | oneOf anyCase set, s, s' => s.past? (fun d => set.has anyCase d) = some s'
  | place p, s, s' => s' = s ∧ p.holds s.last s.rest.head? = true
  | seq p q, s, s' => ∃ mid, p.Leads s mid ∧ q.Leads mid s'
  | alt p q, s, s' => p.Leads s s' ∨ q.Leads s s'
  | group p, s, s' => p.Leads s s'
  | repeated p least most, s, s' =>
    ∃ k, least ≤ k ∧ (∀ m ∈ most, k ≤ max least m) ∧ Times (fun u u' => p.Leads u u') k s s'

theorem follows_past (t : Text) (wanted : Char → Bool) :
    Follows t (fun spots => spots.filterMap (·.past? wanted)) fun s s' => s.past? wanted = some s' where
  areOf hspots := hspots.past wanted
  mem _ s' := by simp only [List.mem_filterMap]
  forward := by
    rintro _ s' ⟨before, rest, rfl, rfl⟩ hpast
    obtain ⟨c, more, rfl, -, rfl⟩ := Spot.past?_between.1 hpast
    simp [Spot.between]

theorem le_span {t : Text} {spots : Spots} (hspots : spots.AreOf t) {s s' : Spot} (hs : s ∈ spots)
    (hs' : s'.IsOf t) {j : Nat} (hj : s.index + j ≤ s'.index) : j ≤ spots.span := by
  obtain ⟨first, rest, rfl⟩ := List.exists_cons_of_ne_nil (List.ne_nil_of_mem hs)
  obtain ⟨hfirst, hrest, -⟩ := hspots.cons_inv
  have hle : first.index ≤ s.index := by
    rcases List.mem_cons.1 hs with rfl | hs
    · exact Nat.le_refl _
    · exact Nat.le_of_lt (hrest s hs)
  have hlength := hfirst.index_add
  have hend := hs'.index_add
  have hspan : Spots.span (first :: rest) = first.rest.length + 1 := rfl
  omega

theorem follows_repeated {t : Text} {step : Spots → Spots} {R : Spot → Spot → Prop} (h : Follows t step R)
    (least : Nat) (most : Option Nat) :
    Follows t (fun spots =>
        reach step (match most with
          | some most => most - least
          | none => (iterate step least spots).span) (iterate step least spots) (iterate step least spots))
      fun s s' => ∃ k, least ≤ k ∧ (∀ m ∈ most, k ≤ max least m) ∧ Times R k s s' := by
  have hstart := h.iterate least
  have hreach {spots : Spots} (hspots : spots.AreOf t) (n : Nat) :=
    h.reach_spec n (hstart.areOf hspots) (hstart.areOf hspots) (List.Subset.refl _) fun s hs hnot => absurd hs hnot
  have hreached {spots : Spots} (hspots : spots.AreOf t) (n : Nat) (s' : Spot) :
      s' ∈ reach step n (iterate step least spots) (iterate step least spots) ↔
        ∃ j ≤ n, ∃ s ∈ iterate step least spots, Times R j s s' := by
    rw [(hreach hspots n).2]
    refine ⟨?_, .inr⟩
    rintro (hs' | hsteps)
    · exact ⟨0, Nat.zero_le n, s', hs', rfl⟩
    · exact hsteps
  refine ⟨fun hspots => (hreach hspots _).1, fun {spots} hspots s' => ?_, fun {s s'} hs hsteps => ?_⟩
  · rw [hreached hspots]
    constructor
    · rintro ⟨j, hj, mid, hmid, hsteps⟩
      obtain ⟨s, hs, hfirst⟩ := (hstart.mem hspots mid).1 hmid
      refine ⟨s, hs, least + j, Nat.le_add_right least j, fun m hm => ?_, times_add.2 ⟨mid, hfirst, hsteps⟩⟩
      obtain rfl : most = some m := hm
      dsimp only at hj
      omega
    · rintro ⟨s, hs, k, hk, hmost, hsteps⟩
      rw [← Nat.add_sub_cancel' hk] at hsteps
      obtain ⟨mid, hfirst, hsteps⟩ := times_add.1 hsteps
      have hmid : mid ∈ iterate step least spots := (hstart.mem hspots mid).2 ⟨s, hs, hfirst⟩
      have hof : mid.IsOf t := (hstart.areOf hspots).isOf mid hmid
      cases most with
      | some m =>
        have := hmost m rfl
        exact ⟨k - least, by dsimp only; omega, mid, hmid, hsteps⟩
      | none =>
        -- Without a bound as many steps are made as there are places left.
        obtain ⟨j, hindex, -, hshort⟩ := h.times_short hof hsteps
        have hs' : s'.IsOf t := (h.iterate _).isOf hof hsteps
        exact ⟨j, le_span (hstart.areOf hspots) hmid hs' hindex, mid, hmid, hshort⟩
  · obtain ⟨k, -, -, hsteps⟩ := hsteps
    exact (h.iterate k).forward hs hsteps

/-- The places where a search ends are those to which the expression leads. -/
theorem follows_ends (t : Text) (p : Pattern) : Follows t p.ends p.Leads := by
  induction p with
  | empty => exact ⟨fun hspots => hspots, fun _ s' => by simp [ends, Leads],
    fun _ hsame => Nat.le_of_eq (congrArg Spot.index hsame.symm)⟩
  | letter anyCase c => exact follows_past t _
  | oneOf anyCase set => exact follows_past t _
  | place p =>
    refine ⟨fun hspots => hspots.filter _, fun _ s' => ?_,
      fun _ hsame => Nat.le_of_eq (congrArg Spot.index hsame.1.symm)⟩
    simp only [ends, Leads, List.mem_filter]
    constructor
    · rintro ⟨hs', hp⟩
      exact ⟨s', hs', rfl, hp⟩
    · rintro ⟨s, hs, rfl, hp⟩
      exact ⟨hs, hp⟩
  | seq p q hp hq => exact hp.andThen hq
  | alt p q hp hq => exact hp.either hq
  | group p hp => exact hp
  | repeated p least most hp => exact follows_repeated hp least most

/-- An expression is found in a text exactly if it leads from some place of the text to another. -/
theorem isIn_iff {p : Pattern} {t : Text} : p.isIn t = true ↔ ∃ s s', s.IsOf t ∧ p.Leads s s' := by
  have hmem := (follows_ends t p).mem (Spots.areOf_ofText t)
  rw [isIn, decide_eq_true_iff]
  constructor
  · intro hne
    obtain ⟨s', hs'⟩ := List.exists_mem_of_ne_nil _ hne
    obtain ⟨s, hs, hleads⟩ := (hmem s').1 hs'
    exact ⟨s, s', Spots.mem_ofText.1 hs, hleads⟩
  · rintro ⟨s, s', hs, hleads⟩
    exact List.ne_nil_of_mem ((hmem s').2 ⟨s, Spots.mem_ofText.2 hs, hleads⟩)

end Pattern

end Notebook
