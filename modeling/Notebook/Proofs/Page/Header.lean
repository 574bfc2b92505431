import Mathlib.Tactic.MkIffOfInductiveProp
import Notebook.Page.Header
import Notebook.Page.Layout
import Notebook.Proofs.Directive
import Notebook.Proofs.Number.Plain
import Notebook.Proofs.Text.Lines

/-! # Header lines are read as they are written -/

namespace Notebook

open Text

/-! ## Kinds of line -/

theorem isHeaderLine_iff {line : Text} :
    isHeaderLine line = true ↔ ∃ rest, line = '\\' :: rest ∧ rest.head? ≠ some '\\' := by
  unfold isHeaderLine
  fun_cases PageLine.read line with
  | case1 => simp
  | case2 rest => simp
  | case3 rest hrest =>
    refine iff_of_true rfl ⟨rest, rfl, fun hhead => ?_⟩
    obtain ⟨more, rfl⟩ := List.head?_eq_some_iff.1 hhead
    exact hrest more rfl
  | case4 c rest hsecond hfirst =>
    refine iff_of_false (by simp) ?_
    rintro ⟨more, hline, -⟩
    exact hfirst (List.cons.inj hline).1

theorem isHeaderLine_eq_false_iff {line : Text} :
    isHeaderLine line = false ↔ ∀ rest, line = '\\' :: rest → rest.head? = some '\\' := by
  rw [← Bool.not_eq_true, isHeaderLine_iff]
  push Not
  rfl

theorem PageLine.read_of_isHeaderLine_eq_false {line : Text} (h : isHeaderLine line = false) :
    PageLine.read line = .text line := by
  revert h
  unfold isHeaderLine
  fun_cases PageLine.read line <;> simp

theorem PageLine.read_backslash {rest : Text} (h : rest.head? ≠ some '\\') :
    PageLine.read ('\\' :: rest) = .header rest.trim := by
  unfold PageLine.read
  split
  · simp_all
  · simp_all
  · simp_all
  · rename_i hslash heq
    exact absurd (List.cons.inj heq).1.symm hslash

theorem PageLine.read_headerLine (content : Text) :
    PageLine.read (withoutReturn (headerLine content)) = .header content.trim := by
  rw [headerLine, withoutReturn_cons, PageLine.read_backslash (head?_withoutReturn_ne (by simp)),
    trim_withoutReturn, trim_cons_blank rfl]

theorem isHeaderLine_withoutReturn {line : Text} (h : isHeaderLine line = false) :
    isHeaderLine (withoutReturn line) = false := by
  by_contra hheader
  rw [Bool.not_eq_false, isHeaderLine_iff] at hheader
  obtain ⟨rest, hline, hrest⟩ := hheader
  obtain ⟨back, hback⟩ := withoutReturn_prefix line
  rw [hline, List.cons_append] at hback
  have : isHeaderLine line = true := by
    rw [isHeaderLine_iff]
    refine ⟨rest ++ back, hback.symm, ?_⟩
    cases rest with
    | cons c rest => exact hrest
    | nil =>
      intro hhead
      obtain ⟨more, rfl⟩ := List.head?_eq_some_iff.1 hhead
      rw [← hback, List.nil_append, withoutReturn_cons] at hline
      cases more with
      | nil => simp [withoutReturn] at hline
      | cons d more => simp [withoutReturn_cons] at hline
  simp [h] at this

/-! ## Dividers -/

theorem isDivider_eq_false {t : Text} {c d : Char} (hc : c ∈ t) (hd : d ∈ t) (hne : c ≠ d) :
    isDivider t = false := by
  cases t with
  | nil => rfl
  | cons first rest =>
    by_contra h
    simp only [isDivider, Bool.not_eq_false, Bool.and_eq_true, List.all_eq_true, decide_eq_true_eq] at h
    have same : ∀ e ∈ first :: rest, e = first := by simpa using h.1.2
    exact hne ((same c hc).trans (same d hd).symm)

/-! ## Kinds of content -/

namespace HeaderItem

theorem read_field {name value : Text} (h : '=' ∉ name) :
    HeaderItem.read (name ++ '=' :: value) = .field (name.trim, .read value) := by
  have hcut : (name ++ '=' :: value).cutAt? (· = '=') = some (name, value) :=
    cutAt?_append (fun d hd => by simpa using ne_of_mem_of_not_mem hd h) (by simp)
  simp only [HeaderItem.read, hcut]

theorem cutAt?_equals_eq_none {content : Text} (h : '=' ∉ content) : content.cutAt? (· = '=') = none := by
  rw [cutAt?_eq_none]
  exact fun d hd => by simpa using ne_of_mem_of_not_mem hd h

theorem read_directive {rest : Text} (h : '=' ∉ rest) :
    HeaderItem.read ('@' :: rest) = .directive (.read rest.trimStart) := by
  have hcut : Text.cutAt? (· = '=') ('@' :: rest) = none := cutAt?_equals_eq_none (by simp [h])
  simp only [HeaderItem.read, hcut]

theorem read_tags {content : Text} (h : '=' ∉ content) (hat : content.head? ≠ some '@') :
    HeaderItem.read content = .tags (content.pieces isTagSeparator) := by
  unfold HeaderItem.read
  rw [cutAt?_equals_eq_none h]
  dsimp only
  split
  · simp at hat
  · rfl

end HeaderItem

/-! ## Parts of a header -/

/-- Without blanks at its ends and all on one line. -/
@[mk_iff]
structure Text.IsInline (t : Text) : Prop where
  trimmed : t.trim = t
  newline : '\n' ∉ t

instance (t : Text) : Decidable t.IsInline := decidable_of_iff' _ t.isInline_iff

theorem Text.isInline_trim {t : Text} (h : '\n' ∉ t) : t.trim.IsInline :=
  ⟨trim_trim t, fun hmem => h (mem_of_mem_trim hmem)⟩

@[mk_iff]
structure IsTag (tag : Text) : Prop where
  inline : tag.IsInline
  ne_nil : tag ≠ []
  separators : ∀ c ∈ tag, HeaderItem.isTagSeparator c = false
  equals : '=' ∉ tag

instance (tag : Text) : Decidable (IsTag tag) :=
  -- A statement about all characters would be decided by going through every character there is.
  decidable_of_iff (tag.IsInline ∧ tag ≠ [] ∧ tag.all (!HeaderItem.isTagSeparator ·) ∧ '=' ∉ tag) <| by
    simp [isTag_iff]

/-- Finite numbers, and texts that are no numerals of them. -/
def FieldValue.IsWritable : FieldValue → Prop
  | .number x => x.isFinite = true
  | .text t => t.IsInline ∧ readNumber? t = none

instance : DecidablePred FieldValue.IsWritable
  | .number x => inferInstanceAs (Decidable (x.isFinite = true))
  | .text t => inferInstanceAs (Decidable (t.IsInline ∧ readNumber? t = none))

@[mk_iff]
structure Field.IsWritable (f : Field) : Prop where
  name : f.1.IsInline
  equals : '=' ∉ f.1
  value : f.2.IsWritable

instance (f : Field) : Decidable f.IsWritable := decidable_of_iff' _ f.isWritable_iff

/-! ## Fields -/

theorem FieldValue.isInline_written {v : FieldValue} (h : v.IsWritable) : v.written.IsInline := by
  cases v with
  | text t => exact h.1
  | number x =>
    have hprintable : ∀ c ∈ x.plain, 33 ≤ c.toNat ∧ c.toNat ≤ 126 := by
      intro c hc
      rcases Double.mem_plain h hc with hdigit | rfl | rfl
      · rw [Char.isDigit_iff_toNat, show '0'.toNat = 48 from rfl, show '9'.toNat = 57 from rfl] at hdigit
        omega
      · decide
      · decide
    have hblank : ∀ c ∈ x.plain, isBlankChar c = false := fun c hc =>
      isBlankChar_printable (hprintable c hc).1 (hprintable c hc).2
    refine ⟨trim_eq_self (fun c hc => hblank c (List.mem_of_mem_head? hc))
      fun c hc => hblank c (List.mem_of_getLast? hc), fun hnewline => ?_⟩
    exact absurd (hblank _ hnewline) (by decide)

theorem FieldValue.read_written {v : FieldValue} (h : v.IsWritable) : FieldValue.read v.written = v := by
  unfold FieldValue.read
  rw [(isInline_written h).trimmed]
  cases v with
  | text t => simp only [written, h.2]
  | number x => simp only [written, readNumber?_plain h]

theorem FieldValue.read_trim (t : Text) : FieldValue.read t.trim = FieldValue.read t := by
  simp only [read, trim_trim]

end Notebook
