import Notebook.Proofs.Text.Blanks

/-! # Lines of a text -/

namespace Notebook.Text

variable {line t : Text}

/-! ## Line ends -/

/-- A line as it is read once it is written: a carriage return at its end counts as part of the line end. -/
def withoutReturn (line : Text) : Text := if line.getLast? = some '\r' then line.dropLast else line

theorem withoutReturn_cons (c d : Char) (rest : Text) :
    withoutReturn (c :: d :: rest) = c :: withoutReturn (d :: rest) := by
  unfold withoutReturn
  rw [List.getLast?_cons_cons, List.dropLast_cons_cons]
  split <;> rfl

theorem withoutReturn_eq_self : withoutReturn line = line ↔ line.getLast? ≠ some '\r' := by
  unfold withoutReturn
  split
  · rename_i hend
    have hne : line ≠ [] := by
      rintro rfl
      simp at hend
    have := List.length_pos_iff.2 hne
    refine ⟨fun h => ?_, fun h => absurd hend h⟩
    have := congrArg List.length h
    simp only [List.length_dropLast] at this
    omega
  · simp_all

theorem withoutReturn_prefix (line : Text) : withoutReturn line <+: line := by
  unfold withoutReturn
  split
  · exact List.dropLast_prefix line
  · exact List.prefix_refl line

theorem trim_withoutReturn (line : Text) : (withoutReturn line).trim = line.trim := by
  unfold withoutReturn
  split
  · rename_i hend
    obtain ⟨front, rfl⟩ := List.getLast?_eq_some_iff.1 hend
    rw [List.dropLast_concat, trim_append_blanks]
    simp [isBlankChar]
  · rfl

theorem head?_withoutReturn_ne {c : Char} (h : line.head? ≠ some c) : (withoutReturn line).head? ≠ some c := by
  obtain ⟨rest, hrest⟩ := withoutReturn_prefix line
  intro hhead
  obtain ⟨more, hmore⟩ := List.head?_eq_some_iff.1 hhead
  exact h (by rw [← hrest, hmore]; rfl)

/-! ## Reading lines -/

theorem lines_line (hline : '\n' ∉ line) (rest : Text) :
    lines (line ++ '\n' :: rest) = withoutReturn line :: lines rest := by
  induction line with
  | nil => rw [List.nil_append, lines]; rfl
  | cons c front ih =>
    rw [List.mem_cons, not_or] at hline
    obtain ⟨hc, hfront⟩ := hline
    have hc : c ≠ '\n' := Ne.symm hc
    -- Whether a carriage return ends the line is seen at the next character.
    cases front with
    | nil =>
      by_cases hreturn : c = '\r'
      · subst hreturn
        rw [List.cons_append, List.nil_append, lines]
        rfl
      · rw [List.cons_append, List.nil_append, lines, lines]
        · simp [withoutReturn, hreturn]
        · exact hc
        · simpa using hreturn
    | cons d front =>
      have hd : d ≠ '\n' := by
        rintro rfl
        simp at hfront
      rw [List.cons_append, lines, ih hfront, withoutReturn_cons]
      · exact hc
      · intro rest' _ hrest'
        rw [List.cons_append, List.cons.injEq] at hrest'
        exact hd hrest'.1

theorem lines_ofLines_append {ls : List Text} (hls : ∀ line ∈ ls, '\n' ∉ line) (rest : Text) :
    lines (ofLines ls ++ rest) = ls.map withoutReturn ++ lines rest := by
  induction ls with
  | nil => rfl
  | cons line more ih =>
    have hrest := ih fun l hl => hls l (by simp [hl])
    rw [ofLines, List.flatMap_cons, ← ofLines, List.append_assoc, List.append_assoc, List.singleton_append,
      lines_line (hls line (by simp)), hrest]
    rfl

theorem lines_ofLines_plain {ls : List Text} (hls : ∀ line ∈ ls, '\n' ∉ line ∧ '\r' ∉ line) (rest : Text) :
    lines (ofLines ls ++ rest) = ls ++ lines rest := by
  have hkept : ∀ line ∈ ls, withoutReturn line = line := by
    intro line hline
    rw [withoutReturn_eq_self]
    intro hlast
    exact (hls line hline).2 (List.mem_of_getLast? hlast)
  have hsame : ls.map withoutReturn = ls := by simpa using List.map_congr_left hkept
  rw [lines_ofLines_append (fun line hline => (hls line hline).1), hsame]

theorem lines_eq_nil : lines t = [] ↔ t = [] := by
  fun_cases lines t <;> simp [*]

def IsEnded (t : Text) : Prop := t = [] ∨ t.getLast? = some '\n'

instance (t : Text) : Decidable t.IsEnded := inferInstanceAs (Decidable (t = [] ∨ t.getLast? = some '\n'))

theorem IsEnded.tail {c : Char} (h : IsEnded (c :: t)) : t.IsEnded := by
  cases t with
  | nil => exact .inl rfl
  | cons d t => exact .inr (by simpa [IsEnded] using h)

theorem lines_append (h : t.IsEnded) (rest : Text) : lines (t ++ rest) = lines t ++ lines rest := by
  fun_induction lines t with
  | case1 => rfl
  | case2 t ih => rw [List.cons_append, lines, ih h.tail, List.cons_append]
  | case3 t ih => rw [List.cons_append, List.cons_append, lines, ih h.tail.tail, List.cons_append]
  | case4 c t hfeed _ hnil _ =>
    have ht : t = [] := lines_eq_nil.1 hnil
    obtain rfl : c = '\n' := by simpa [IsEnded, ht] using h
    exact absurd rfl hfeed
  | case5 c t hfeed hreturn first more hmore ih =>
    rw [List.cons_append, lines, ih h.tail, hmore]
    · rfl
    · exact hfeed
    · intro after hc hafter
      cases t with
      | nil => simp [lines] at hmore
      | cons d t =>
        rw [List.cons_append, List.cons.injEq] at hafter
        exact hreturn t hc (by rw [hafter.1])

theorem lines_flatten {pages : List Text} (h : ∀ page ∈ pages.dropLast, page.IsEnded) :
    lines pages.flatten = pages.flatMap lines := by
  induction pages with
  | nil => rfl
  | cons page rest ih =>
    cases rest with
    | nil => simp
    | cons next rest =>
      rw [List.dropLast_cons_cons] at h
      rw [List.flatten_cons, lines_append (h page (by simp)), ih fun p hp => h p (.tail _ hp)]
      rfl

theorem newline_not_mem_of_mem_lines (h : line ∈ lines t) : '\n' ∉ line := by
  fun_induction lines t generalizing line with
  | case1 => simp at h
  | case2 rest ih | case3 rest ih =>
    rcases List.mem_cons.1 h with rfl | h
    · simp
    · exact ih h
  | case4 c rest hc _ hnil _ =>
    rw [List.mem_singleton.1 h]
    simpa using Ne.symm hc
  | case5 c rest hc _ first more hmore ih =>
    rw [hmore] at ih
    rcases List.mem_cons.1 h with rfl | h
    · rw [List.mem_cons, not_or]
      exact ⟨Ne.symm hc, ih (by simp)⟩
    · exact ih (by simp [h])

theorem mem_of_mem_lines {c : Char} (h : line ∈ lines t) (hc : c ∈ line) : c ∈ t := by
  fun_induction lines t generalizing line with
  | case1 => simp at h
  | case2 rest ih =>
    rcases List.mem_cons.1 h with rfl | h
    · simp at hc
    · exact .tail _ (ih h hc)
  | case3 rest ih =>
    rcases List.mem_cons.1 h with rfl | h
    · simp at hc
    · exact .tail _ (.tail _ (ih h hc))
  | case4 d rest _ _ _ _ =>
    rw [List.mem_singleton.1 h, List.mem_singleton] at hc
    simp [hc]
  | case5 d rest _ _ first more hmore ih =>
    rw [hmore] at ih
    rcases List.mem_cons.1 h with rfl | h
    · rcases List.mem_cons.1 hc with rfl | hc
      · simp
      · exact .tail _ (ih (by simp) hc)
    · exact .tail _ (ih (.tail _ h) hc)

end Notebook.Text
