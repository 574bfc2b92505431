import Mathlib.Data.List.DropRight
import Notebook.Text.Basic

/-! # Blanks at the ends of a text -/

namespace Notebook.Text

variable {t : Text}

/-! ## Characters -/

theorem isBlankChar_printable {c : Char} (hlow : 33 ≤ c.toNat) (hhigh : c.toNat ≤ 126) :
    isBlankChar c = false := by
  unfold isBlankChar
  simp only [Bool.or_eq_false_iff, Bool.and_eq_false_iff, decide_eq_false_iff_not]
  omega

/-! ## Trimming -/

theorem trim_eq (t : Text) : t.trim = (t.dropWhile isBlankChar).rdropWhile isBlankChar := rfl

theorem trim_infix (t : Text) : t.trim <:+: t :=
  (List.rdropWhile_prefix ..).isInfix.trans (List.dropWhile_suffix _).isInfix

theorem mem_of_mem_trim {c : Char} (h : c ∈ t.trim) : c ∈ t := t.trim_infix.subset h

theorem head?_trim {c : Char} (h : c ∈ t.trim.head?) : isBlankChar c = false := by
  have hsome : t.trim.head? = some c := h
  have hprefix : t.trim <+: t.dropWhile isBlankChar := List.rdropWhile_prefix ..
  obtain ⟨rest, hrest⟩ := hprefix
  cases htrim : t.trim with
  | nil => simp [htrim] at hsome
  | cons d front =>
    rw [htrim, List.head?_cons, Option.some.injEq] at hsome
    rw [htrim, List.cons_append] at hrest
    have hne : t.dropWhile isBlankChar ≠ [] := by simp [← hrest]
    have := List.head_dropWhile_not isBlankChar hne
    simp only [← hrest, List.head_cons] at this
    rwa [← hsome]

theorem getLast?_trim {c : Char} (h : c ∈ t.trim.getLast?) : isBlankChar c = false := by
  have hsome : t.trim.getLast? = some c := h
  have hne : t.trim ≠ [] := by
    intro hnil
    simp [hnil] at hsome
  have := List.rdropWhile_last_not isBlankChar (t.dropWhile isBlankChar) hne
  rw [List.getLast?_eq_some_getLast hne, Option.some.injEq] at hsome
  rw [← hsome, ← Bool.not_eq_true]
  exact this

theorem trim_eq_self (hhead : ∀ c ∈ t.head?, isBlankChar c = false)
    (hlast : ∀ c ∈ t.getLast?, isBlankChar c = false) : t.trim = t := by
  have hstart : t.dropWhile isBlankChar = t := by
    rw [List.dropWhile_eq_self_iff]
    intro hlen
    have := hhead _ (List.head?_eq_getElem? ▸ List.getElem?_eq_getElem hlen)
    simpa using this
  rw [trim_eq, hstart, List.rdropWhile_eq_self_iff]
  intro hne
  have := hlast _ (List.getLast?_eq_some_getLast hne)
  simpa using this

@[simp] theorem trim_trim (t : Text) : t.trim.trim = t.trim :=
  trim_eq_self (fun _ => head?_trim) fun _ => getLast?_trim

theorem head?_of_trim_eq (h : t.trim = t) {c : Char} (hc : c ∈ t.head?) : isBlankChar c = false := by
  rw [← h] at hc
  exact head?_trim hc

theorem getLast?_of_trim_eq (h : t.trim = t) {c : Char} (hc : c ∈ t.getLast?) : isBlankChar c = false := by
  rw [← h] at hc
  exact getLast?_trim hc

/-! ## Blanks that are trimmed away -/

theorem trim_cons_blank {c : Char} (hc : isBlankChar c) (t : Text) : trim (c :: t) = t.trim := by
  rw [trim_eq, List.dropWhile_cons_of_pos hc, ← trim_eq]

theorem trim_append_blanks {blanks : Text} (hblanks : ∀ c ∈ blanks, isBlankChar c) (t : Text) :
    (t ++ blanks).trim = t.trim := by
  induction blanks using List.reverseRecOn with
  | nil => rw [List.append_nil]
  | append_singleton front c ih =>
    have hc : isBlankChar c = true := hblanks c (by simp)
    rw [← ih fun d hd => hblanks d (by simp [hd]), ← List.append_assoc]
    generalize t ++ front = u
    rw [trim_eq, trim_eq, List.dropWhile_append]
    split
    · rename_i hnil
      rw [List.isEmpty_iff.1 hnil, List.dropWhile_cons_of_pos hc]
      rfl
    · rw [List.rdropWhile_concat_pos _ _ _ hc]

theorem trim_blanks_append {blanks : Text} (hblanks : ∀ c ∈ blanks, isBlankChar c) (t : Text) :
    trim (blanks ++ t) = t.trim := by
  rw [trim_eq, List.dropWhile_append_of_pos hblanks, ← trim_eq]

theorem trim_append_cons {c : Char} (hc : isBlankChar c = false) (front back : Text) :
    trim (front ++ c :: back) = front.trimStart ++ c :: back.trimEnd := by
  have hc' : ¬ isBlankChar c = true := by simp [hc]
  have hstart : (front ++ c :: back).dropWhile isBlankChar = front.trimStart ++ c :: back := by
    rw [trimStart, List.dropWhile_append, List.dropWhile_cons_of_neg hc']
    split
    · rename_i hnil
      rw [List.isEmpty_iff.1 hnil, List.nil_append]
    · rfl
  have hend (start : Text) : (start ++ c :: back).rdropWhile isBlankChar = start ++ c :: back.trimEnd := by
    rw [List.rdropWhile, List.reverse_append, List.reverse_cons, List.append_assoc, List.dropWhile_append,
      List.singleton_append, List.dropWhile_cons_of_neg hc', trimEnd]
    split
    · rename_i hnil
      simp [List.isEmpty_iff.1 hnil]
    · simp
  rw [trim_eq, hstart, hend]

theorem trim_eq_nil_iff : t.trim = [] ↔ ∀ c ∈ t, isBlankChar c := by
  constructor
  · intro hnil c hc
    by_contra hblank
    obtain ⟨front, back, rfl⟩ := List.append_of_mem hc
    rw [trim_append_cons (by simpa using hblank)] at hnil
    simp at hnil
  · intro hblanks
    rw [← List.append_nil t, trim_blanks_append hblanks]
    rfl

theorem trim_trimStart (t : Text) : t.trimStart.trim = t.trim := by
  rw [trim_eq, trimStart, List.dropWhile_idempotent, ← trim_eq]

theorem trim_trimEnd (t : Text) : t.trimEnd.trim = t.trim := by
  have hsplit : t = t.trimEnd ++ (t.reverse.takeWhile isBlankChar).reverse := by
    rw [trimEnd, ← List.reverse_append, List.takeWhile_append_dropWhile, List.reverse_reverse]
  conv_rhs => rw [hsplit]
  rw [trim_append_blanks]
  intro c hc
  exact List.mem_takeWhile_imp (List.mem_reverse.1 hc)

theorem trim_padded (width : Nat) (t : Text) : (t.padded width).trim = t.trim := by
  apply trim_append_blanks
  intro c hc
  rw [List.eq_of_mem_replicate hc]
  rfl

theorem trimStart_eq_self (h : t.trim = t) : t.trimStart = t := by
  have hlen : t.trim.length ≤ t.trimStart.length := (List.rdropWhile_prefix ..).length_le
  rw [h] at hlen
  exact (List.dropWhile_suffix _).eq_of_length (Nat.le_antisymm (List.dropWhile_suffix _).length_le hlen)

theorem trimEnd_eq_self (h : t.trim = t) : t.trimEnd = t := by
  rw [← trimStart_eq_self h]
  exact h.trans (trimStart_eq_self h).symm

end Notebook.Text
