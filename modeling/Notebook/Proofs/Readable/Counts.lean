import Notebook.Readable

/-! # Digits in groups of three

Commas are put in from the front, and whether one comes next is told by the digits that are left. So the groups are
counted from the end, by induction on the digits.
-/

namespace Notebook

variable {t : Text}

theorem grouped_cons (d : Char) (hne : t ≠ []) :
    grouped (d :: t) = if t.length % 3 = 0 then d :: ',' :: grouped t else d :: grouped t := by
  simp [grouped, hne]

theorem grouped_ne_nil (hne : t ≠ []) : grouped t ≠ [] := by
  cases t with
  | nil => exact absurd rfl hne
  | cons d rest =>
    unfold grouped
    split <;> simp

theorem filter_grouped (h : ',' ∉ t) : (grouped t).filter (· ≠ ',') = t := by
  induction t with
  | nil => rfl
  | cons d rest ih =>
    rw [List.mem_cons, not_or] at h
    have hd : d ≠ ',' := Ne.symm h.1
    unfold grouped
    split <;> simpa [hd] using ih h.2

theorem head?_grouped (t : Text) : (grouped t).head? = t.head? := by
  cases t with
  | nil => rfl
  | cons d rest =>
    unfold grouped
    split <;> rfl

theorem getLast?_grouped (t : Text) : (grouped t).getLast? = t.getLast? := by
  induction t with
  | nil => rfl
  | cons d rest ih =>
    by_cases hne : rest = []
    · rw [hne]
      rfl
    · have hlast := grouped_ne_nil hne
      rw [grouped_cons d hne, List.getLast?_cons_of_ne_nil hne, ← ih]
      split <;> simp [List.getLast?_cons_of_ne_nil, hlast]

theorem splitOn_cons (c : Char) (t : Text) :
    (c :: t).splitOn ',' = if c = ',' then [] :: t.splitOn ',' else (t.splitOn ',').modifyHead (c :: ·) := by
  simp only [List.splitOn_eq_splitOnP, List.splitOnP_cons_eq_if_modifyHead, beq_iff_eq]

theorem splitOn_grouped (h : ',' ∉ t) (hne : t ≠ []) :
    ∃ first rest, (grouped t).splitOn ',' = first :: rest ∧ first.length = (t.length - 1) % 3 + 1 ∧
      ∀ group ∈ rest, group.length = 3 := by
  induction t with
  | nil => exact absurd rfl hne
  | cons d digits ih =>
    rw [List.mem_cons, not_or] at h
    have hd : d ≠ ',' := Ne.symm h.1
    rw [List.length_cons, Nat.add_sub_cancel]
    by_cases hdigits : digits = []
    · refine ⟨[d], [], ?_, by simp [hdigits], by simp⟩
      rw [hdigits, show grouped [d] = [d] from rfl, splitOn_cons, if_neg hd]
      rfl
    · obtain ⟨first, rest, hsplit, hfirst, hrest⟩ := ih h.2 hdigits
      have hlength := List.length_pos_iff.2 hdigits
      rw [grouped_cons d hdigits]
      split
      · rename_i hthird
        refine ⟨[d], first :: rest, ?_, ?_, ?_⟩
        · rw [splitOn_cons, if_neg hd, splitOn_cons, if_pos rfl, hsplit]
          rfl
        · rw [hthird]
          rfl
        · intro group hgroup
          rcases List.mem_cons.1 hgroup with rfl | hgroup
          · omega
          · exact hrest group hgroup
      · refine ⟨d :: first, rest, ?_, ?_, hrest⟩
        · rw [splitOn_cons, if_neg hd, hsplit]
          rfl
        · rw [List.length_cons]
          omega

theorem comma_not_mem_toDigits (n : Nat) : ',' ∉ Nat.toDigits 10 n := by
  intro hmem
  have hdigit := Nat.isDigit_of_mem_toDigits (by omega) (by omega) hmem
  exact absurd hdigit (by decide)

/-- A count is its digits with commas between groups of three, of which only the first can be shorter. -/
theorem groupThousands_in_threes :
    (∀ n : Nat, (groupThousands n).filter (· ≠ ',') = Nat.toDigits 10 n ∧
      (∃ first rest, (groupThousands n).splitOn ',' = first :: rest ∧ 1 ≤ first.length ∧ first.length ≤ 3 ∧
        ∀ group ∈ rest, group.length = 3) ∧
      (groupThousands n).head? ≠ some ',' ∧ (groupThousands n).getLast? ≠ some ',') ∧
    Function.Injective groupThousands := by
  have hdigits (n : Nat) : (groupThousands n).filter (· ≠ ',') = Nat.toDigits 10 n :=
    filter_grouped (comma_not_mem_toDigits n)
  refine ⟨fun n => ⟨hdigits n, ?_, ?_, ?_⟩, ?_⟩
  · obtain ⟨first, rest, hsplit, hfirst, hrest⟩ := splitOn_grouped (comma_not_mem_toDigits n) Nat.toDigits_ne_nil
    exact ⟨first, rest, hsplit, by omega, by omega, hrest⟩
  · rw [groupThousands, head?_grouped]
    exact fun hhead => comma_not_mem_toDigits n (List.mem_of_mem_head? hhead)
  · rw [groupThousands, getLast?_grouped]
    exact fun hlast => comma_not_mem_toDigits n (List.mem_of_mem_getLast? hlast)
  · intro n m hsame
    have hfiltered : Nat.toDigits 10 n = Nat.toDigits 10 m := by rw [← hdigits, ← hdigits, hsame]
    have hvalue := congrArg (Nat.ofDigitChars 10 · 0) hfiltered
    simpa only [Nat.ofDigitChars_ten_toDigits] using hvalue

theorem groupThousands_in_threes_million :
    (groupThousands 1234567).filter (· ≠ ',') = "1234567".toList ∧
      ∃ rest, (groupThousands 1234567).splitOn ',' = "1".toList :: rest ∧ "234".toList ∈ rest ∧
        "234".toList.length = 3 := by
  obtain ⟨hgroups, -⟩ := groupThousands_in_threes
  obtain ⟨hdigits, ⟨first, rest, hsplit, -, -, hrest⟩, -⟩ := hgroups 1234567
  have hparts : (groupThousands 1234567).splitOn ',' = ["1".toList, "234".toList, "567".toList] := by decide +kernel
  obtain ⟨rfl, rfl⟩ := List.cons.inj (hsplit.symm.trans hparts)
  have hmem : "234".toList ∈ ["234".toList, "567".toList] := by simp
  exact ⟨hdigits, _, hparts, hmem, hrest _ hmem⟩

end Notebook
