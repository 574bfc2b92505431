import Notebook.Directive
import Notebook.Proofs.Text.Blanks
import Notebook.Proofs.Text.Cutting

/-! # Directives are read as they are written -/

namespace Notebook.Directive

open Text

/-! ## What is read -/

theorem read_trim (text : Text) : read text.trim = read text := by simp only [read, trim_trim]

theorem readWords_cases (t : Text) :
    readWords t = unknown t ∨
      ∃ word rest, t.cutAt? isBlankChar = some (word, rest) ∧ rest.trim ≠ [] ∧
        readWords t = rename rest.trim := by
  unfold readWords
  split
  · rename_i word rest hcut
    split
    · rename_i hword
      simp only [Bool.and_eq_true, decide_eq_true_eq] at hword
      exact .inr ⟨word, rest, hcut, hword.2, rfl⟩
    · exact .inl rfl
  · exact .inl rfl

theorem read_cases (text : Text) :
    read text = insert ∨ read text = replace ∨ read text = delete ∨ read text = addOnly ∨
      read text = merge ∨ read text = unknown text.trim ∨
      ∃ word rest, text.trim.cutAt? isBlankChar = some (word, rest) ∧ rest.trim ≠ [] ∧
        read text = rename rest.trim := by
  unfold read
  dsimp only
  split; · simp
  split; · simp
  split; · simp
  split; · simp
  split; · simp
  rcases readWords_cases text.trim with h | h
  · simp [h]
  · exact .inr (.inr (.inr (.inr (.inr (.inr h)))))

/-! ## What is written -/

theorem written_unknown (text : Text) : (unknown text).written = text := rfl

theorem written_rename (path : Text) :
    (rename path).written = ['r', 'e', 'n', 'a', 'm', 'e'] ++ ' ' :: path := rfl

theorem trim_rename {path : Text} (hne : path ≠ []) (hpath : path.trim = path) :
    (rename path).written.trim = (rename path).written := by
  obtain ⟨d, front, hfront⟩ : ∃ d front, path = front ++ [d] :=
    ⟨path.getLast hne, path.dropLast, (List.dropLast_append_getLast hne).symm⟩
  rw [written_rename]
  apply trim_eq_self
  · intro c hc
    obtain rfl : 'r' = c := by simpa using hc
    rfl
  · intro c hc
    rw [hfront, ← List.cons_append, ← List.append_assoc, List.getLast?_concat, Option.mem_some_iff] at hc
    subst hc
    rw [hfront] at hpath
    exact getLast?_of_trim_eq hpath (by simp)

theorem read_rename {path : Text} (hne : path ≠ []) (hpath : path.trim = path) :
    read (rename path).written = rename path := by
  have hcut : (rename path).written.cutAt? isBlankChar = some (['r', 'e', 'n', 'a', 'm', 'e'], path) := by
    rw [written_rename]
    exact cutAt?_append (by simp [isBlankChar]) rfl
  have hread : read (rename path).written = readWords (rename path).written := by
    unfold read
    rw [trim_rename hne hpath, written_rename]
    simp
  rw [hread, readWords, hcut]
  simp [hpath, hne]

/-- Whatever was read is written as it is read again. -/
theorem read_written_read (text : Text) : read (read text).written = read text := by
  rcases read_cases text with h | h | h | h | h | h | ⟨_, rest, -, hne, h⟩
  case inr.inr.inr.inr.inr.inl =>
    rw [h, written_unknown, read_trim, h]
  case inr.inr.inr.inr.inr.inr =>
    rw [h, read_rename hne (trim_trim rest)]
  all_goals
    rw [h]
    rfl

theorem exists_read {d : Directive} : (∃ text, d = read text) ↔ read d.written = d := by
  refine ⟨?_, fun h => ⟨d.written, h.symm⟩⟩
  rintro ⟨text, rfl⟩
  exact read_written_read text

instance (d : Directive) : Decidable (∃ text, d = read text) := decidable_of_iff' _ exists_read

theorem trim_written_read (text : Text) : (read text).written.trim = (read text).written := by
  rcases read_cases text with h | h | h | h | h | h | ⟨_, rest, -, hne, h⟩
  case inr.inr.inr.inr.inr.inl =>
    rw [h, written_unknown, trim_trim]
  case inr.inr.inr.inr.inr.inr =>
    rw [h, trim_rename hne (trim_trim rest)]
  all_goals
    rw [h]
    rfl

theorem mem_written_read {text : Text} {c : Char} (h : c ∈ (read text).written) :
    c ∈ text ∨ c ∈ ['r', 'e', 'p', 'l', 'a', 'c', 'd', 't', 'm', 'g', 'n', ' '] := by
  rcases read_cases text with hr | hr | hr | hr | hr | hr | ⟨word, rest, hcut, hne, hr⟩ <;> rw [hr] at h
  case inr.inr.inr.inr.inr.inl =>
    rw [written_unknown] at h
    exact .inl (mem_of_mem_trim h)
  case inr.inr.inr.inr.inr.inr =>
    rw [written_rename, List.mem_append] at h
    obtain ⟨d, htext, -⟩ := of_cutAt?_eq_some hcut
    rcases h with h | h
    · right
      have hname : ['r', 'e', 'n', 'a', 'm', 'e'] ⊆ ['r', 'e', 'p', 'l', 'a', 'c', 'd', 't', 'm', 'g', 'n', ' '] := by
        decide
      exact hname h
    rcases List.mem_cons.1 h with rfl | h
    · simp
    · left
      apply mem_of_mem_trim
      rw [htext]
      simp [mem_of_mem_trim h]
  all_goals
    right
    exact (show (_ : List Char) ⊆ _ by decide) h

end Notebook.Directive
