import Mathlib.Data.List.Basic
import Notebook.Text.Basic

/-! # Cutting texts into pieces -/

namespace Notebook.Text

variable {p : Char → Bool} {t a b : Text} {c : Char}

/-! ## At the first of some characters -/

theorem span_append (ha : ∀ c ∈ a, p c = true) (hb : ∀ c ∈ b.head?, p c = false) :
    (a ++ b).takeWhile p = a ∧ (a ++ b).dropWhile p = b := by
  have hstop : b.takeWhile p = [] ∧ b.dropWhile p = b := by
    cases b with
    | nil => exact ⟨rfl, rfl⟩
    | cons c rest => simp [hb c rfl]
  rw [List.takeWhile_append_of_pos ha, List.dropWhile_append_of_pos ha, hstop.1, hstop.2, List.append_nil]
  exact ⟨rfl, rfl⟩

theorem cutAt?_eq_none : cutAt? p t = none ↔ ∀ c ∈ t, p c = false := by
  induction t with
  | nil => simp [cutAt?]
  | cons c rest ih =>
    rw [cutAt?]
    by_cases hc : p c
    · simp [hc]
    · simp [hc, ih]

theorem cutAt?_append (ha : ∀ d ∈ a, p d = false) (hc : p c) : cutAt? p (a ++ c :: b) = some (a, b) := by
  induction a with
  | nil => simp [cutAt?, hc]
  | cons d rest ih =>
    have hd : p d = false := ha d (by simp)
    simp [cutAt?, hd, ih fun e he => ha e (by simp [he])]

theorem of_cutAt?_eq_some (h : cutAt? p t = some (a, b)) :
    ∃ c, t = a ++ c :: b ∧ p c ∧ ∀ d ∈ a, p d = false := by
  induction t generalizing a with
  | nil => simp [cutAt?] at h
  | cons c rest ih =>
    rw [cutAt?] at h
    by_cases hc : p c
    · rw [if_pos hc, Option.some.injEq, Prod.mk.injEq] at h
      obtain ⟨rfl, rfl⟩ := h
      exact ⟨c, rfl, hc, by simp⟩
    · rw [if_neg hc, Option.map_eq_some_iff] at h
      obtain ⟨⟨front, back⟩, hcut, h⟩ := h
      obtain ⟨rfl, rfl⟩ := Prod.mk.inj h
      obtain ⟨d, rfl, hd, hfront⟩ := ih hcut
      exact ⟨d, rfl, hd, by simpa [hc] using hfront⟩

/-! ## At all of them -/

theorem pieces_append (ha : ∀ d ∈ a, p d = false) (hc : p c) :
    pieces p (a ++ c :: b) = a :: pieces p b := by
  induction a with
  | nil => simp [pieces, hc]
  | cons d rest ih =>
    have hd : p d = false := ha d (by simp)
    simp [pieces, hd, ih fun e he => ha e (by simp [he])]

theorem pieces_single (ha : ∀ d ∈ a, p d = false) : pieces p a = [a] := by
  induction a with
  | nil => rfl
  | cons d rest ih =>
    have hd : p d = false := ha d (by simp)
    simp [pieces, hd, ih fun e he => ha e (by simp [he])]

theorem mem_pieces {piece : Text} (h : piece ∈ pieces p t) : ∀ d ∈ piece, d ∈ t ∧ p d = false := by
  induction t generalizing piece with
  | nil =>
    rw [pieces, List.mem_singleton] at h
    simp [h]
  | cons c rest ih =>
    rw [pieces] at h
    by_cases hc : p c
    · rw [if_pos hc, List.mem_cons] at h
      rcases h with rfl | h
      · simp
      · exact fun d hd => ⟨.tail _ (ih h d hd).1, (ih h d hd).2⟩
    · rw [if_neg hc] at h
      cases hrest : pieces p rest with
      | nil =>
        rw [hrest, List.mem_singleton] at h
        simp [h, hc]
      | cons first more =>
        rw [hrest] at h ih
        rcases List.mem_cons.1 h with rfl | h
        · intro d hd
          rcases List.mem_cons.1 hd with rfl | hd
          · simp [hc]
          · have := ih (by simp) d hd
            exact ⟨.tail _ this.1, this.2⟩
        · have := ih (.tail _ h)
          exact fun d hd => ⟨.tail _ (this d hd).1, (this d hd).2⟩

/-! ## Joined pieces -/

theorem joined_cons_cons (between : Text) (first second : Text) (rest : List Text) :
    joined between (first :: second :: rest) = first ++ between ++ joined between (second :: rest) := by
  simp [joined, List.intercalate]

theorem joined_singleton (between : Text) (only : Text) : joined between [only] = only := by
  simp [joined, List.intercalate]

theorem mem_joined {between : Text} {parts : List Text} (h : c ∈ joined between parts) :
    c ∈ between ∨ ∃ part ∈ parts, c ∈ part := by
  induction parts with
  | nil => simp [joined, List.intercalate] at h
  | cons first rest ih =>
    cases rest with
    | nil =>
      rw [joined_singleton] at h
      exact .inr ⟨first, by simp, h⟩
    | cons second rest =>
      rw [joined_cons_cons, List.mem_append, List.mem_append] at h
      rcases h with (h | h) | h
      · exact .inr ⟨first, by simp, h⟩
      · exact .inl h
      · exact (ih h).imp_right fun ⟨part, hpart, hc⟩ => ⟨part, .tail _ hpart, hc⟩

/-- Parts that are set off by a separator and a blank come apart again, each but the first with its blank. -/
theorem pieces_joined {blank : Char} (hc : p c) (hblank : p blank = false) (first : Text) {rest : List Text}
    (hparts : ∀ part ∈ first :: rest, ∀ d ∈ part, p d = false) :
    pieces p (joined [c, blank] (first :: rest)) = first :: rest.map (blank :: ·) := by
  induction rest generalizing first with
  | nil =>
    rw [joined_singleton]
    exact pieces_single (hparts first (by simp))
  | cons second rest ih =>
    have hfirst := hparts first (by simp)
    have hrest : ∀ part ∈ second :: rest, ∀ d ∈ part, p d = false := fun part hpart =>
      hparts part (by simp [List.mem_cons.1 hpart])
    have hblanked : pieces p (blank :: joined [c, blank] (second :: rest))
        = (blank :: second) :: rest.map (blank :: ·) := by
      rw [pieces, hblank, ih second hrest]
      rfl
    rw [joined_cons_cons, List.append_assoc, List.cons_append, List.cons_append, List.nil_append,
      pieces_append hfirst hc, hblanked, List.map_cons]

end Notebook.Text
