import Mathlib.Data.List.Basic

/-! # Folds, and steps that may fail -/

namespace Notebook

/-! ## Steps that may fail -/

section Steps

variable {α β ε : Type}

theorem bind_eq_ok {x : Except ε α} {f : α → Except ε β} {b : β} :
    (x >>= f) = .ok b ↔ ∃ a, x = .ok a ∧ f a = .ok b := by
  cases x with
  | error e => simp [bind, Except.bind]
  | ok a => exact ⟨fun h => ⟨a, rfl, h⟩, fun ⟨_, ha, h⟩ => Except.ok.inj ha ▸ h⟩

theorem bind_eq_error {x : Except ε α} {f : α → Except ε β} {e : ε} :
    (x >>= f) = .error e ↔ x = .error e ∨ ∃ a, x = .ok a ∧ f a = .error e := by
  cases x <;> simp [bind, Except.bind]

theorem map_eq_error {x : Except ε α} {f : α → β} {e : ε} : x.map f = .error e ↔ x = .error e := by
  cases x <;> simp [Except.map]

theorem map_eq_ok {x : Except ε α} {f : α → β} {b : β} :
    x.map f = .ok b ↔ ∃ a, x = .ok a ∧ f a = b := by
  cases x <;> simp [Except.map]

end Steps

/-! ## Folds that may fail -/

theorem foldlM_congr {α γ ε : Type} {f f' : α → γ → Except ε α} {l : List γ}
    (h : ∀ a, ∀ x ∈ l, f a x = f' a x) (a : α) : l.foldlM f a = l.foldlM f' a := by
  induction l generalizing a with
  | nil => rfl
  | cons x rest ih =>
    rw [List.foldlM_cons, List.foldlM_cons, h a x (by simp)]
    exact bind_congr fun b => ih (fun a y hy => h a y (by simp [hy])) b

theorem foldlM_preserves {α γ ε : Type} {f : α → γ → Except ε α} (P : α → Prop) {l : List γ}
    (h : ∀ a, ∀ x ∈ l, ∀ b, P a → f a x = .ok b → P b) {a b : α} (ha : P a)
    (hfold : l.foldlM f a = .ok b) : P b := by
  induction l generalizing a with
  | nil => exact Except.ok.inj hfold ▸ ha
  | cons x rest ih =>
    rw [List.foldlM_cons] at hfold
    obtain ⟨c, hx, hfold⟩ := bind_eq_ok.1 hfold
    exact ih (fun a y hy => h a y (by simp [hy])) (h a x (by simp) c ha hx) hfold

theorem foldlM_eq_error {α γ ε : Type} {f : α → γ → Except ε α} {l : List γ} {a : α} {e : ε}
    (h : l.foldlM f a = .error e) : ∃ b, ∃ x ∈ l, f b x = .error e := by
  induction l generalizing a with
  | nil => cases h
  | cons x rest ih =>
    rw [List.foldlM_cons] at h
    rcases bind_eq_error.1 h with hx | ⟨b, -, hrest⟩
    · exact ⟨a, x, by simp, hx⟩
    · obtain ⟨b, y, hy, hfail⟩ := ih hrest
      exact ⟨b, y, by simp [hy], hfail⟩

/-- A fold whose states are images of the states of another fold. -/
theorem foldlM_image {α β γ ε : Type} {f : β → γ → Except ε β} {f' : α → γ → Except ε α}
    (g : α → β) {l : List γ} (h : ∀ a, ∀ x ∈ l, f (g a) x = (f' a x).map g) (a : α) :
    l.foldlM f (g a) = (l.foldlM f' a).map g := by
  induction l generalizing a with
  | nil => rfl
  | cons x rest ih =>
    rw [List.foldlM_cons, List.foldlM_cons, h a x (by simp)]
    cases f' a x with
    | error e => rfl
    | ok b => exact ih (fun a y hy => h a y (by simp [hy])) b

theorem foldlM_succeeds {α γ ε : Type} {f : α → γ → Except ε α} {l : List γ}
    (h : ∀ a, ∀ x ∈ l, ∃ b, f a x = .ok b) (a : α) : ∃ b, l.foldlM f a = .ok b := by
  induction l generalizing a with
  | nil => exact ⟨a, rfl⟩
  | cons x rest ih =>
    obtain ⟨b, hb⟩ := h a x (by simp)
    obtain ⟨c, hc⟩ := ih (fun a y hy => h a y (.tail _ hy)) b
    exact ⟨c, bind_eq_ok.2 ⟨b, hb, hc⟩⟩

/-- A view of the states of a fold that changes only with some of the items, and with these as in another fold. -/
theorem foldlM_view {α β γ ε : Type} {f : α → γ → Except ε α} {f' : β → γ → Except ε β} (view : α → β)
    (p : γ → Bool) {l : List γ}
    (h : ∀ a, ∀ x ∈ l, ∀ b, f a x = .ok b → if p x then f' (view a) x = .ok (view b) else view b = view a) {a b : α}
    (hfold : l.foldlM f a = .ok b) : (l.filter p).foldlM f' (view a) = .ok (view b) := by
  induction l generalizing a with
  | nil => exact Except.ok.inj hfold ▸ rfl
  | cons x rest ih =>
    rw [List.foldlM_cons] at hfold
    obtain ⟨c, hx, hrest⟩ := bind_eq_ok.1 hfold
    have hstep := h a x (by simp) c hx
    have htail := ih (fun a y hy => h a y (.tail _ hy)) hrest
    by_cases hp : p x
    · rw [if_pos hp] at hstep
      rw [List.filter_cons_of_pos hp, List.foldlM_cons]
      exact bind_eq_ok.2 ⟨view c, hstep, htail⟩
    · rw [if_neg hp] at hstep
      rw [List.filter_cons_of_neg hp, ← hstep]
      exact htail

/-! ## Keeping the first of equals -/

theorem foldl_keep {α : Type} (r : α → α → Bool) (kept l : List α) :
    l.foldl (fun kept x => if kept.any (r x) then kept else kept ++ [x]) kept
      = kept ++ (l.filter fun x => !kept.any (r x)).eraseDupsBy r := by
  induction l generalizing kept with
  | nil => simp
  | cons x rest ih =>
    rw [List.foldl_cons, ih]
    by_cases h : kept.any (r x)
    · simp [h]
    · rw [if_neg h, List.filter_cons_of_pos (by simpa using h), List.eraseDupsBy_cons, List.filter_filter]
      simp [Bool.and_comm]

theorem mem_of_mem_eraseDupsBy {α : Type} {r : α → α → Bool} {x : α} {l : List α}
    (h : x ∈ l.eraseDupsBy r) : x ∈ l := by
  induction hn : l.length using Nat.strongRecOn generalizing l with
  | _ n ih =>
    cases l with
    | nil => simp at h
    | cons y rest =>
      rw [List.eraseDupsBy_cons, List.mem_cons] at h
      rcases h with rfl | h
      · simp
      · have hlen := List.length_filter_le (fun z => r z y = false) rest
        have := ih _ (by simp only [List.length_cons] at hn; omega) h rfl
        exact List.mem_cons_of_mem _ (List.mem_filter.1 this).1

theorem pairwise_eraseDupsBy {α : Type} (r : α → α → Bool) (l : List α) :
    (l.eraseDupsBy r).Pairwise fun a b => r b a = false := by
  induction hn : l.length using Nat.strongRecOn generalizing l with
  | _ n ih =>
    cases l with
    | nil => simp
    | cons x rest =>
      have hlen := List.length_filter_le (fun y => r y x = false) rest
      rw [List.eraseDupsBy_cons, List.pairwise_cons]
      refine ⟨fun y hy => ?_, ih _ (by simp only [List.length_cons] at hn; omega) _ rfl⟩
      simpa using (List.mem_filter.1 (mem_of_mem_eraseDupsBy hy)).2

theorem eraseDupsBy_eq_self {α : Type} {r : α → α → Bool} {l : List α}
    (h : l.Pairwise fun a b => r b a = false) : l.eraseDupsBy r = l := by
  induction l with
  | nil => simp
  | cons x rest ih =>
    obtain ⟨hx, hrest⟩ := List.pairwise_cons.1 h
    rw [List.eraseDupsBy_cons, List.filter_eq_self.2 fun y hy => by simp [hx y hy], ih hrest]

theorem filter_new_self {α : Type} {r : α → α → Bool} {l : List α} (hrefl : ∀ x ∈ l, r x x = true) :
    l.filter (fun x => !l.any (r x)) = [] := by
  rw [List.filter_eq_nil_iff]
  intro x hx
  have hthere : l.any (r x) = true := List.any_eq_true.2 ⟨x, hx, hrefl x hx⟩
  simp [hthere]

end Notebook
