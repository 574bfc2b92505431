import Mathlib.Data.List.SplitBy
import Notebook.Text.Basic

/-! # Runs of one class of characters -/

namespace Notebook.Text

variable {p : Char → Bool}

/-- The pieces of a text: every maximal run of characters of a class, and every other character alone. -/
def runs (p : Char → Bool) (t : Text) : List Text := t.splitBy fun a b => p a && p b

theorem runs_other {c : Char} (hc : p c = false) (t : Text) : runs p (c :: t) = [c] :: runs p t := by
  have happend : runs p ([c] ++ t) = runs p [c] ++ runs p t := by
    apply List.splitBy_append
    simp [hc]
  exact happend

theorem runs_run {run t : Text} (hne : run ≠ []) (hrun : ∀ c ∈ run, p c = true) (ht : ∀ c ∈ t.head?, p c = false) :
    runs p (run ++ t) = run :: runs p t := by
  have hwhole : runs p run = [run] := by
    apply List.splitBy_of_isChain hne
    exact (List.pairwise_of_forall_mem_list fun a ha b hb => by simp [hrun a ha, hrun b hb]).isChain
  have happend : runs p (run ++ t) = runs p run ++ runs p t := by
    apply List.splitBy_append
    intro a _ b hb
    simp [ht b hb]
  rw [happend, hwhole, List.singleton_append]

@[elab_as_elim]
theorem runInduction {P : Text → Prop} (nil : P []) (other : ∀ c t, p c = false → P t → P (c :: t))
    (run : ∀ run t, run ≠ [] → (∀ c ∈ run, p c = true) → (∀ c ∈ t.head?, p c = false) → P t → P (run ++ t))
    (t : Text) : P t := by
  -- The characters of the class in front of the text are those of the run that is under way.
  have hpending : ∀ front : Text, (∀ c ∈ front, p c = true) → P (front ++ t) := by
    induction t with
    | nil =>
      intro front hfront
      by_cases hne : front = []
      · rw [hne]
        exact nil
      · exact run front [] hne hfront (by simp) nil
    | cons c t ih =>
      intro front hfront
      by_cases hc : p c = true
      · rw [← List.singleton_append, ← List.append_assoc]
        exact ih (front ++ [c]) (List.forall_mem_append.2 ⟨hfront, by simpa using hc⟩)
      · have hother : p c = false := by simpa using hc
        have hrest : P (c :: t) := other c t hother (ih [] (by simp))
        by_cases hne : front = []
        · rw [hne]
          exact hrest
        · exact run front (c :: t) hne hfront (by simpa using hother) hrest
  exact hpending [] (by simp)

/-! ## Texts read run by run -/

section

variable {α : Type} {f : Text → List α} {once : List α} {other : Char → List α}
variable (hcons : ∀ c rest, f (c :: rest) =
  if p c then (if rest.head?.any p then [] else once) ++ f rest else other c ++ f rest)

include hcons

theorem eq_once_of_run {run t : Text} (hne : run ≠ []) (hrun : ∀ c ∈ run, p c = true)
    (ht : ∀ c ∈ t.head?, p c = false) : f (run ++ t) = once ++ f t := by
  induction run with
  | nil => exact absurd rfl hne
  | cons c rest ih =>
    rw [List.cons_append, hcons, if_pos (hrun c (by simp))]
    cases rest with
    | nil =>
      have hstop : ¬ t.head?.any p = true := by
        rw [Option.any_eq_true]
        rintro ⟨d, hd, hp⟩
        exact Bool.false_ne_true ((ht d hd).symm.trans hp)
      rw [List.nil_append, if_neg hstop]
    | cons d rest =>
      have hnext : (d :: rest ++ t).head?.any p = true := by simp [hrun d]
      rw [if_pos hnext, List.nil_append]
      exact ih (by simp) fun e he => hrun e (.tail _ he)

/-- What comes of each run once, and of each other character, comes run by run. -/
theorem eq_flatMap_runs (hnil : f [] = []) (t : Text) :
    f t = (runs p t).flatMap fun run => if run.any p then once else run.flatMap other := by
  induction t using runInduction (p := p) with
  | nil => simp [hnil, runs]
  | other c t hc ih => simp [hcons, hc, runs_other hc, ih]
  | run run t hne hall ht ih =>
    obtain ⟨c, rest, rfl⟩ := List.exists_cons_of_ne_nil hne
    have hany : (c :: rest).any p = true := by simp [hall c]
    rw [eq_once_of_run hcons hne hall ht, runs_run hne hall ht, List.flatMap_cons, if_pos hany, ih]

end

end Notebook.Text
