import Notebook.PathOrder

/-! # Lower case on both sides of a separator

The final form of a sigma depends on the letters around it, but never across a separator, which has no
case and is not passed over. So the parts of a path are lowered one by one.
-/

namespace Notebook

/-! ## Single characters -/

theorem CaseRun.image?_bounds {r : CaseRun} {n m : Nat} (h : r.image? n = some m) :
    r.target ≤ m ∧ m ≤ r.target + (r.last - r.first) := by
  unfold CaseRun.image? at h
  split at h
  · obtain rfl := Option.some.inj h
    omega
  · cases h

theorem imageIn_bounds {runs : List CaseRun} {n m : Nat} (h : imageIn runs n = some m) :
    ∃ r ∈ runs, r.target ≤ m ∧ m ≤ r.target + (r.last - r.first) := by
  induction runs with
  | nil => cases h
  | cons r rest ih =>
    rw [imageIn] at h
    split at h
    · cases h
    · rcases Option.or_eq_some_iff.1 h with h | ⟨-, h⟩
      · exact ⟨r, by simp, CaseRun.image?_bounds h⟩
      · obtain ⟨other, hother, hbounds⟩ := ih h
        exact ⟨other, by simp [hother], hbounds⟩

theorem lowerRuns_targets :
    lowerRuns.all (fun r => 0x61 ≤ r.target &&
      (r.target + (r.last - r.first) < 0xD800 || 0xDFFF < r.target && r.target + (r.last - r.first) < 0x110000))
      = true := by
  decide

theorem toNat_of_mem_lowerChar {c d : Char} (h : d ∈ lowerChar c) : d = c ∨ 0x61 ≤ d.toNat := by
  unfold lowerChar at h
  split at h
  · simp only [List.mem_cons, List.not_mem_nil, or_false] at h
    rcases h with rfl | rfl <;> exact .inr (by decide)
  · split at h
    · rename_i m himage
      obtain ⟨r, hr, hlow, hhigh⟩ := imageIn_bounds himage
      have htarget := List.all_eq_true.1 lowerRuns_targets r hr
      simp only [Bool.and_eq_true, Bool.or_eq_true, decide_eq_true_eq] at htarget
      have hvalid : m.isValidChar := by
        unfold Nat.isValidChar
        omega
      obtain rfl := List.mem_singleton.1 h
      have hcode : (Char.ofNat m).toNat = m := by
        rw [Char.ofNat, dif_pos hvalid]
        rfl
      right
      omega
    · exact .inl (List.mem_singleton.1 h)

theorem lowerChar_separator : lowerChar separator = [separator] := by decide

/-! ## Texts -/

/-- What lies beyond a separator has no part in what is seen from before it. -/
theorem meetsCased_append_separator (t rest : Text) :
    meetsCased (t ++ separator :: rest) = meetsCased t := by
  have hignorable : isCaseIgnorable separator = false := by decide
  have hcased : isCased separator = false := by decide
  unfold meetsCased
  rw [List.dropWhile_append]
  split
  · rename_i hnil
    rw [List.isEmpty_iff.1 hnil, List.dropWhile_cons_of_neg (by simp [hignorable])]
    simp [hcased]
  · rename_i hne
    obtain ⟨c, more, hcons⟩ := List.exists_cons_of_ne_nil (mt List.isEmpty_iff.2 hne)
    rw [hcons, List.cons_append]
    rfl

theorem lowerAfter_separator (before rest t : Text) :
    lowerAfter (before ++ separator :: rest) t = lowerAfter before t := by
  induction t generalizing before with
  | nil => rfl
  | cons c t ih =>
    rw [lowerAfter, lowerAfter, meetsCased_append_separator, ← List.cons_append, ih]

theorem lowerAfter_append_separator (before t s : Text) :
    lowerAfter before (t ++ separator :: s) = lowerAfter before t ++ separator :: s.lower := by
  induction t generalizing before with
  | nil =>
    have hsigma : separator ≠ 'Σ' := by decide
    have hrest : lowerAfter (separator :: before) s = lowerAfter [] s := lowerAfter_separator [] before s
    simp only [List.nil_append, lowerAfter, if_neg hsigma, lowerChar_separator, hrest]
    rfl
  | cons c t ih => rw [List.cons_append, lowerAfter, lowerAfter, meetsCased_append_separator, ih, List.append_assoc]

namespace Text

theorem lower_append_separator (t s : Text) : (t ++ separator :: s).lower = t.lower ++ separator :: s.lower :=
  lowerAfter_append_separator [] t s

theorem mem_of_mem_lowerAfter {before t : Text} {c : Char} (hc : c.toNat < 0x61) (h : c ∈ lowerAfter before t) :
    c ∈ t := by
  induction t generalizing before with
  | nil => cases h
  | cons d t ih =>
    rw [lowerAfter, List.mem_append] at h
    rcases h with h | h
    · split at h
      · have hsigma : 0x61 ≤ c.toNat := by
          rw [List.mem_singleton.1 h]
          split <;> decide
        omega
      · rcases toNat_of_mem_lowerChar h with rfl | hlow
        · simp
        · omega
    · exact .tail _ (ih h)

theorem mem_lower_separator {t : Text} (h : separator ∈ t.lower) : separator ∈ t :=
  mem_of_mem_lowerAfter (by decide) h

theorem exists_of_lower_eq {q x y : Text} (h : q.lower = x ++ separator :: y) :
    ∃ b s : Text, q = b ++ separator :: s ∧ b.lower = x ∧ s.lower = y := by
  -- The first separator of the text is the first one of the lower case; the others lie in the rest.
  induction hlength : q.length using Nat.strongRecOn generalizing q x with
  | ind length ih =>
    obtain ⟨first, rest, rfl, hfirst⟩ := List.eq_append_cons_of_mem (mem_lower_separator (t := q) (by simp [h]))
    have hlower : separator ∉ Text.lower first := fun hmem => hfirst (mem_lower_separator hmem)
    rw [lower_append_separator] at h
    rcases List.append_eq_append_iff.1 h with ⟨more, hx, hmore⟩ | ⟨more, hx, hmore⟩
    · cases more with
      | nil =>
        obtain rfl : x = Text.lower first := by simpa using hx
        exact ⟨first, rest, rfl, rfl, (List.cons.inj hmore).2⟩
      | cons c more =>
        obtain ⟨rfl, hrest⟩ := List.cons.inj hmore
        have hshorter : rest.length < length := by
          rw [← hlength, List.length_append, List.length_cons]
          omega
        obtain ⟨b, s, rfl, hb, hs⟩ := ih rest.length hshorter hrest rfl
        exact ⟨first ++ separator :: b, s, by simp, by rw [lower_append_separator, hb, hx], hs⟩
    · cases more with
      | nil =>
        obtain rfl : x = Text.lower first := by simpa using hx.symm
        exact ⟨first, rest, rfl, rfl, (List.cons.inj hmore).2.symm⟩
      | cons c more =>
        obtain ⟨rfl, -⟩ := List.cons.inj hmore
        exact absurd (by simp [hx]) hlower

end Text

end Notebook
