import Notebook.Pattern.Size
import Notebook.Proofs.Pattern.Matching
import Notebook.Proofs.Pattern.Phrases
import Notebook.Proofs.Text.Blanks
import Notebook.Proofs.Text.Lowercase

/-! # Words that are found whole

A phrase is found where it stands between blanks, unless a character at one of its ends is taken for a part of
a word when the expression is made, and not when it is tried.
-/

namespace Notebook

open Text

/-! ## Blanks -/

theorem Ranges.exists_of_covers {rs : Ranges} {n : Nat} (h : rs.covers n = true) :
    ∃ r ∈ rs, r.1 ≤ n ∧ n ≤ r.2 := by
  induction rs with
  | nil => cases h
  | cons r rest ih =>
    obtain ⟨low, high⟩ := r
    unfold covers at h
    split at h
    · cases h
    · split at h
      · exact ⟨(low, high), by simp, by omega, by omega⟩
      · obtain ⟨other, hother, hbounds⟩ := ih h
        exact ⟨other, by simp [hother], hbounds⟩

theorem imageIn_source {runs : List CaseRun} {n m : Nat} (h : imageIn runs n = some m) :
    ∃ r ∈ runs, r.first ≤ n ∧ n ≤ r.last := by
  induction runs with
  | nil => cases h
  | cons r rest ih =>
    rw [imageIn] at h
    split at h
    · cases h
    · rcases Option.or_eq_some_iff.1 h with h | ⟨-, h⟩
      · unfold CaseRun.image? at h
        split at h
        · exact ⟨r, by simp, by omega, by omega⟩
        · cases h
      · obtain ⟨other, hother, hbounds⟩ := ih h
        exact ⟨other, by simp [hother], hbounds⟩

theorem exists_of_isBlankChar {c : Char} (h : isBlankChar c = true) :
    ∃ b ∈ blankRanges, b.1 ≤ c.toNat ∧ c.toNat ≤ b.2 := by
  simp only [isBlankChar, Bool.or_eq_true, Bool.and_eq_true, decide_eq_true_eq] at h
  simp only [blankRanges, List.mem_cons, List.not_mem_nil, or_false, exists_eq_or_imp, exists_eq_left]
  omega

def Ranges.haveNoBlanks (rs : Ranges) : Bool :=
  rs.all fun r => blankRanges.all fun b => decide (r.2 < b.1 ∨ b.2 < r.1)

theorem Ranges.not_isBlankChar {rs : Ranges} (h : rs.haveNoBlanks = true) {r : Nat × Nat} (hr : r ∈ rs) {c : Char}
    (hrange : r.1 ≤ c.toNat ∧ c.toNat ≤ r.2) : isBlankChar c = false := by
  by_contra hblank
  obtain ⟨b, hb, hbounds⟩ := exists_of_isBlankChar (by simpa using hblank)
  have := of_decide_eq_true (List.all_eq_true.1 (List.all_eq_true.1 h r hr) b hb)
  omega

theorem isWordChar_of_isBlankChar {c : Char} (h : isBlankChar c = true) : isWordChar c = false := by
  have happart : Ranges.haveNoBlanks wordRanges = true := by decide +kernel
  by_contra hword
  obtain ⟨r, hr, hrange⟩ := Ranges.exists_of_covers (by simpa [isWordChar] using hword)
  exact Bool.false_ne_true ((Ranges.not_isBlankChar happart hr hrange).symm.trans h)

theorem foldCode_of_isBlankChar {c : Char} (h : isBlankChar c = true) : foldCode c.toNat = c.toNat := by
  have happart : Ranges.haveNoBlanks (foldRuns.map fun r => (r.first, r.last)) = true := by decide +kernel
  cases himage : imageIn foldRuns c.toNat with
  | none => simp [foldCode, himage]
  | some m =>
    obtain ⟨r, hr, hrange⟩ := imageIn_source himage
    have hnot := Ranges.not_isBlankChar happart (List.mem_map_of_mem hr) hrange
    exact absurd (hnot.symm.trans h) Bool.false_ne_true

theorem isBlankChar_of_sameLetter {c d : Char} (h : sameLetter c d = true) (hd : isBlankChar d = true) :
    isBlankChar c = true := by
  have happart : Ranges.haveNoBlanks (foldRuns.map fun r => (r.target, r.target + (r.last - r.first))) = true := by
    decide +kernel
  have hfold : foldCode c.toNat = d.toNat := (of_decide_eq_true h).trans (foldCode_of_isBlankChar hd)
  cases himage : imageIn foldRuns c.toNat with
  | none =>
    have hcode : c.toNat = d.toNat := by rwa [foldCode, himage] at hfold
    rw [Char.toNat_inj.1 hcode]
    exact hd
  | some m =>
    have hcode : m = d.toNat := by rwa [foldCode, himage] at hfold
    obtain ⟨r, hr, hrange⟩ := imageIn_bounds himage
    have hnot := Ranges.not_isBlankChar happart (List.mem_map_of_mem hr) (c := d) (by simpa [← hcode] using hrange)
    exact absurd (hnot.symm.trans hd) Bool.false_ne_true

/-! ## What is said -/

/-- Whether a text says a phrase, with its letters in any case and any blanks for its blanks. -/
def IsSaidBy : (phrase said : Text) → Prop
  | [], said => said = []
  | c :: rest, said =>
    if isBlankChar c then
      if rest.head?.any isBlankChar then IsSaidBy rest said
      else ∃ blanks more, said = blanks ++ more ∧ blanks ≠ [] ∧ (∀ d ∈ blanks, isBlankChar d = true) ∧ IsSaidBy rest more
    else ∃ d more, said = d :: more ∧ sameLetter c d = true ∧ IsSaidBy rest more

theorem isSaidBy_blanks_append {t : Text} (blanks : Text) (hblanks : ∀ d ∈ blanks, isBlankChar d = true)
    (h : blanks = [] ∨ t.head?.any isBlankChar = true) : IsSaidBy t (blanks ++ t) := by
  induction t generalizing blanks with
  | nil =>
    rcases h with rfl | h
    · rfl
    · cases h
  | cons c rest ih =>
    unfold IsSaidBy
    split
    · rename_i hc
      have hmore : ∀ d ∈ blanks ++ [c], isBlankChar d = true := List.forall_mem_append.2 ⟨hblanks, by simpa using hc⟩
      split
      · rename_i hnext
        have hrest := ih (blanks ++ [c]) hmore (.inr hnext)
        rwa [List.append_assoc] at hrest
      · exact ⟨blanks ++ [c], rest, by simp, by simp, hmore, ih [] (by simp) (.inl rfl)⟩
    · rename_i hc
      have hnil : blanks = [] := h.resolve_right fun hany => hc (by simpa using hany)
      subst hnil
      exact ⟨c, rest, rfl, by simp [sameLetter], ih [] (by simp) (.inl rfl)⟩

theorem isSaidBy_self (t : Text) : IsSaidBy t t := isSaidBy_blanks_append [] (by simp) (.inl rfl)

theorem IsSaidBy.length_filter {t said : Text} (h : IsSaidBy t said) :
    (said.filter fun c => !isBlankChar c).length = (t.filter fun c => !isBlankChar c).length := by
  induction t generalizing said with
  | nil => rw [show said = [] from h]
  | cons c rest ih =>
    unfold IsSaidBy at h
    split at h
    · rename_i hc
      rw [List.filter_cons_of_neg (by simpa using hc)]
      split at h
      · exact ih h
      · obtain ⟨blanks, more, rfl, -, hblanks, hmore⟩ := h
        have hnone : blanks.filter (fun c => !isBlankChar c) = [] :=
          List.filter_eq_nil_iff.2 fun d hd => by simp [hblanks d hd]
        rw [List.filter_append, hnone, List.nil_append, ih hmore]
    · rename_i hc
      obtain ⟨d, more, rfl, hsame, hmore⟩ := h
      have hd : isBlankChar d = false := by
        by_contra hblank
        exact hc (isBlankChar_of_sameLetter hsame (by simpa using hblank))
      rw [List.filter_cons_of_pos (by simpa using hd), List.filter_cons_of_pos (by simpa using hc),
        List.length_cons, List.length_cons, ih hmore]

/-! ## Where expressions for phrases lead -/

open Spot (between)

variable {before rest : Text} {s s' : Spot}

theorem leads_letter {c : Char} :
    (Pattern.letter true c).Leads (between before rest) s' ↔
      ∃ d more, rest = d :: more ∧ sameLetter c d = true ∧ s' = between (before ++ [d]) more := Spot.past?_between

theorem times_blank {k : Nat} :
    Times (fun u u' => (Pattern.oneOf true .blank).Leads u u') k (between before rest) s' ↔
      ∃ blanks more, rest = blanks ++ more ∧ blanks.length = k ∧ (∀ d ∈ blanks, isBlankChar d = true) ∧
        s' = between (before ++ blanks) more := by
  induction k generalizing before rest with
  | zero =>
    simp only [Times, List.length_eq_zero_iff]
    constructor
    · rintro rfl
      exact ⟨[], rest, rfl, rfl, by simp, by simp⟩
    · rintro ⟨_, more, rfl, rfl, -, rfl⟩
      simp
  | succ k ih =>
    have hstep {mid : Spot} : (Pattern.oneOf true .blank).Leads (between before rest) mid ↔
        ∃ d more, rest = d :: more ∧ isBlankChar d = true ∧ mid = between (before ++ [d]) more := Spot.past?_between
    simp only [Times, hstep]
    constructor
    · rintro ⟨_, ⟨d, more, rfl, hd, rfl⟩, hrest⟩
      obtain ⟨blanks, more, rfl, rfl, hblanks, rfl⟩ := ih.1 hrest
      exact ⟨d :: blanks, more, rfl, rfl, List.forall_mem_cons.2 ⟨hd, hblanks⟩, by simp⟩
    · rintro ⟨blanks, more, rfl, hlength, hblanks, rfl⟩
      obtain ⟨d, blanks, rfl⟩ := List.exists_cons_of_length_eq_add_one hlength
      obtain ⟨hd, hblanks⟩ := List.forall_mem_cons.1 hblanks
      refine ⟨_, ⟨d, blanks ++ more, rfl, hd, rfl⟩, ih.2 ⟨blanks, more, rfl, by simpa using hlength, hblanks, ?_⟩⟩
      simp

theorem leads_blanks :
    blanksPart.pattern.Leads (between before rest) s' ↔
      ∃ blanks more, rest = blanks ++ more ∧ blanks ≠ [] ∧ (∀ d ∈ blanks, isBlankChar d = true) ∧
        s' = between (before ++ blanks) more := by
  constructor
  · rintro ⟨k, hk, -, hsteps⟩
    obtain ⟨blanks, more, rfl, rfl, hblanks, rfl⟩ := times_blank.1 hsteps
    exact ⟨blanks, more, rfl, List.length_pos_iff.1 hk, hblanks, rfl⟩
  · rintro ⟨blanks, more, rfl, hne, hblanks, rfl⟩
    exact ⟨blanks.length, List.length_pos_iff.2 hne, by simp, times_blank.2 ⟨blanks, more, rfl, rfl, hblanks, rfl⟩⟩

theorem leads_sequence_cons {p : Pattern} {ps : List Pattern} :
    (sequence (p :: ps)).Leads s s' ↔ ∃ mid, p.Leads s mid ∧ (sequence ps).Leads mid s' := by
  cases ps with
  | nil => simp [sequence, Pattern.Leads]
  | cons q rest => rfl

theorem leads_sequence_append {ps qs : List Pattern} :
    (sequence (ps ++ qs)).Leads s s' ↔ ∃ mid, (sequence ps).Leads s mid ∧ (sequence qs).Leads mid s' := by
  induction ps generalizing s with
  | nil => simp [sequence, Pattern.Leads]
  | cons p ps ih =>
    rw [List.cons_append, leads_sequence_cons]
    simp only [ih, leads_sequence_cons]
    constructor
    · rintro ⟨u, hu, mid, hmid, hrest⟩
      exact ⟨mid, ⟨u, hu, hmid⟩, hrest⟩
    · rintro ⟨mid, ⟨u, hu, hmid⟩, hrest⟩
      exact ⟨u, hu, mid, hmid, hrest⟩

theorem leads_phraseParts {t : Text} :
    (sequence ((phraseParts t).map (·.pattern))).Leads (between before rest) s' ↔
      ∃ said after, rest = said ++ after ∧ IsSaidBy t said ∧ s' = between (before ++ said) after := by
  induction t generalizing before rest with
  | nil =>
    simp only [phraseParts, List.map_nil, sequence, Pattern.Leads, IsSaidBy]
    constructor
    · rintro rfl
      exact ⟨[], rest, rfl, rfl, by simp⟩
    · rintro ⟨_, after, rfl, rfl, rfl⟩
      simp
  | cons c t ih =>
    rw [phraseParts]
    unfold IsSaidBy
    split
    · split
      · exact ih
      · rw [List.singleton_append, List.map_cons, leads_sequence_cons]
        simp only [leads_blanks]
        constructor
        · rintro ⟨_, ⟨blanks, more, rfl, hne, hblanks, rfl⟩, hrest⟩
          obtain ⟨said, after, rfl, hsaid, rfl⟩ := ih.1 hrest
          exact ⟨blanks ++ said, after, by simp, ⟨blanks, said, rfl, hne, hblanks, hsaid⟩, by simp⟩
        · rintro ⟨_, after, rfl, ⟨blanks, said, rfl, hne, hblanks, hsaid⟩, rfl⟩
          refine ⟨_, ⟨blanks, said ++ after, by simp, hne, hblanks, rfl⟩, ih.2 ⟨said, after, rfl, hsaid, by simp⟩⟩
    · rw [List.map_cons, leads_sequence_cons]
      simp only [leads_letter]
      constructor
      · rintro ⟨_, ⟨d, more, rfl, hd, rfl⟩, hrest⟩
        obtain ⟨said, after, rfl, hsaid, rfl⟩ := ih.1 hrest
        exact ⟨d :: said, after, rfl, ⟨d, said, rfl, hd, hsaid⟩, by simp⟩
      · rintro ⟨_, after, rfl, ⟨d, said, rfl, hd, hsaid⟩, rfl⟩
        exact ⟨_, ⟨d, said ++ after, rfl, hd, rfl⟩, ih.2 ⟨said, after, rfl, hsaid, by simp⟩⟩

theorem leads_edgeParts {c : Option Char} :
    (sequence ((edgeParts c).map (·.pattern))).Leads s s' ↔
      s' = s ∧ (c.any isWordPart = true → Place.edge.holds s.last s.rest.head? = true) := by
  unfold edgeParts
  split
  · rename_i hc
    simp [sequence, Pattern.Leads, hc]
  · rename_i hc
    simp [sequence, Pattern.Leads, hc]

/-! ## Where a phrase stands -/

/-- Said between two other texts, a phrase has edges of words at those of its ends that are part of one. -/
structure Stands (t before said after : Text) : Prop where
  words : IsSaidBy t said
  head : t.head?.any isWordPart = true → Place.edge.holds before.getLast? (said ++ after).head? = true
  last : t.getLast?.any isWordPart = true → Place.edge.holds (before ++ said).getLast? after.head? = true

theorem leads_wordParts {t : Text} :
    (sequence ((wordParts t).map (·.pattern))).Leads (between before rest) s' ↔
      ∃ said after, rest = said ++ after ∧ Stands t before said after ∧ s' = between (before ++ said) after := by
  rw [wordParts, List.map_append, List.map_append, List.append_assoc, leads_sequence_append]
  simp only [leads_sequence_append, leads_edgeParts]
  constructor
  · rintro ⟨_, ⟨rfl, hhead⟩, _, hphrase, rfl, hlast⟩
    obtain ⟨said, after, rfl, hsaid, rfl⟩ := leads_phraseParts.1 hphrase
    exact ⟨said, after, rfl, ⟨hsaid, hhead, hlast⟩, rfl⟩
  · rintro ⟨said, after, rfl, hstands, rfl⟩
    exact ⟨_, ⟨rfl, hstands.head⟩, _, leads_phraseParts.2 ⟨said, after, rfl, hstands.words, rfl⟩, rfl, hstands.last⟩

theorem isIn_phraseExpression {t u : Text} :
    (phraseExpression t).isIn u = true ↔ ∃ before said after, u = before ++ said ++ after ∧ Stands t before said after := by
  rw [Pattern.isIn_iff]
  constructor
  · rintro ⟨_, s', ⟨before, rest, rfl, rfl⟩, hleads⟩
    obtain ⟨_, rfl, hword⟩ := leads_sequence_cons.1 hleads
    obtain ⟨said, after, rfl, hstands, -⟩ := leads_wordParts.1 hword
    exact ⟨before, said, after, by simp, hstands⟩
  · rintro ⟨before, said, after, rfl, hstands⟩
    refine ⟨between before (said ++ after), between (before ++ said) after, ⟨before, said ++ after, by simp, rfl⟩, ?_⟩
    exact leads_sequence_cons.2 ⟨_, rfl, leads_wordParts.2 ⟨said, after, rfl, hstands, rfl⟩⟩

theorem isIn_rootExpression {t u : Text} :
    (rootExpression t).isIn u = true ↔ ∃ said after, u = said ++ after ∧ Stands t [] said after := by
  rw [Pattern.isIn_iff]
  constructor
  · rintro ⟨_, s', ⟨before, rest, rfl, rfl⟩, hleads⟩
    obtain ⟨_, rfl, hplace⟩ := leads_sequence_cons.1 hleads
    obtain ⟨_, ⟨rfl, hstart⟩, hword⟩ := leads_sequence_cons.1 hplace
    obtain rfl : before = [] := by simpa [between, Place.holds] using hstart
    obtain ⟨said, after, rfl, hstands, -⟩ := leads_wordParts.1 hword
    exact ⟨said, after, rfl, hstands⟩
  · rintro ⟨said, after, rfl, hstands⟩
    refine ⟨between [] (said ++ after), between ([] ++ said) after, ⟨[], said ++ after, rfl, rfl⟩, ?_⟩
    refine leads_sequence_cons.2 ⟨_, rfl, leads_sequence_cons.2 ⟨_, ⟨rfl, rfl⟩, ?_⟩⟩
    exact leads_wordParts.2 ⟨said, after, rfl, hstands, rfl⟩

/-! ## Whole words -/

/-- Where an end of a text is taken for a part of a word, it is a word character. -/
structure Text.IsEdged (t : Text) : Prop where
  head : ∀ c ∈ t.head?, isWordPart c = true → isWordChar c = true
  last : ∀ c ∈ t.getLast?, isWordPart c = true → isWordChar c = true

instance (t : Text) : Decidable t.IsEdged :=
  -- A statement about all characters would be decided by going through every character there is.
  decidable_of_iff (t.head?.all (fun c => !isWordPart c || isWordChar c) ∧
      t.getLast?.all (fun c => !isWordPart c || isWordChar c)) <| by
    simp only [Option.all_eq_true, Bool.or_eq_true, Bool.not_eq_true', ← Bool.not_eq_true, ← imp_iff_not_or]
    exact ⟨fun h => ⟨h.1, h.2⟩, fun h => ⟨h.head, h.last⟩⟩

theorem Text.IsEdged.stands {t before after : Text} (h : t.IsEdged) (hne : t ≠ [])
    (hbefore : ∀ c ∈ before.getLast?, isBlankChar c = true) (hafter : ∀ c ∈ after.head?, isBlankChar c = true) :
    Stands t before t after := by
  have hblank {c : Option Char} (hc : ∀ d ∈ c, isBlankChar d = true) : c.any isWordChar = false := by
    cases c with
    | none => rfl
    | some d => exact isWordChar_of_isBlankChar (hc d rfl)
  refine ⟨isSaidBy_self t, fun hpart => ?_, fun hpart => ?_⟩
  · obtain ⟨c, rest, rfl⟩ := List.exists_cons_of_ne_nil hne
    have hword : isWordChar c = true := h.head c rfl (by simpa using hpart)
    simp [Place.holds, hblank hbefore, hword]
  · obtain ⟨front, c, rfl⟩ := List.eq_nil_or_concat t |>.resolve_left hne
    have hword : isWordChar c = true := h.last c (by simp) (by simpa using hpart)
    simp [Place.holds, hblank hafter, hword]

theorem Stands.eq_self {t before said after : Text} (h : Stands t before said after) (htrim : t.trim = t)
    (heq : t = before ++ said ++ after) : before = [] ∧ after = [] := by
  have hlength := h.words.length_filter
  rw [heq] at hlength
  simp only [List.filter_append, List.length_append] at hlength
  have hblank (part : Text) (hpart : (part.filter fun c => !isBlankChar c).length = 0) :
      ∀ c ∈ part, isBlankChar c = true := by
    intro c hc
    have hnone := List.filter_eq_nil_iff.1 (List.length_eq_zero_iff.1 hpart) c hc
    simpa using hnone
  have hbefore := hblank before (by omega)
  have hafter := hblank after (by omega)
  constructor
  · cases before with
    | nil => rfl
    | cons c rest =>
      have hhead := head?_of_trim_eq htrim (c := c) (by simp [heq])
      simp [hbefore c (by simp)] at hhead
  · rcases List.eq_nil_or_concat after with rfl | ⟨front, c, rfl⟩
    · rfl
    · have hlast := getLast?_of_trim_eq htrim (c := c) (by simp [heq])
      simp [hafter c (by simp)] at hlast

theorem Stands.isEdged {t said : Text} (h : Stands t [] said []) (hsaid : said = t) : t.IsEdged := by
  subst hsaid
  constructor
  · intro c hc hpart
    have hc : said.head? = some c := hc
    simpa [hc, hpart, Place.holds] using h.head
  · intro c hc hpart
    have hc : said.getLast? = some c := hc
    simpa [hc, hpart, Place.holds] using h.last

/-- A trimmed phrase is found between blanks if no end of it is taken for a part of a word without being a word
character, and otherwise not even where it is all there is. Nothing but its size keeps the expression for it from
being read. -/
theorem whole_words_are_found {t : Text} (hne : t ≠ []) (htrim : t.trim = t) :
    (Pattern.read? (phrasePattern t) = if (phraseExpression t).isTooLarge then none else some (phraseExpression t)) ∧
    (Pattern.read? (rootPattern t) = if (rootExpression t).isTooLarge then none else some (rootExpression t)) ∧
    (t.IsEdged → ∀ before after : Text, (∀ c ∈ before.getLast?, isBlankChar c = true) →
      (∀ c ∈ after.head?, isBlankChar c = true) →
      (phraseExpression t).isIn (before ++ t ++ after) = true ∧ (rootExpression t).isIn (t ++ after) = true) ∧
    (¬ t.IsEdged → (phraseExpression t).isIn t = false ∧ (rootExpression t).isIn t = false) := by
  refine ⟨read?_phrasePattern t, read?_rootPattern t, fun hedged before after hbefore hafter => ?_, fun hnot => ?_⟩
  · constructor
    · exact isIn_phraseExpression.2 ⟨before, t, after, rfl, hedged.stands hne hbefore hafter⟩
    · exact isIn_rootExpression.2 ⟨t, after, rfl, hedged.stands hne (by simp) hafter⟩
  · have hself (before said after : Text) (heq : t = before ++ said ++ after) (h : Stands t before said after) :
        False := by
      obtain ⟨rfl, rfl⟩ := h.eq_self htrim heq
      exact hnot (h.isEdged (by simpa using heq.symm))
    constructor
    · rw [Bool.eq_false_iff, Ne, isIn_phraseExpression]
      rintro ⟨before, said, after, heq, h⟩
      exact hself before said after heq h
    · rw [Bool.eq_false_iff, Ne, isIn_rootExpression]
      rintro ⟨said, after, heq, h⟩
      exact hself [] said after heq h

theorem whole_words_are_found_holiday :
    Text.IsEdged "road trip".toList ∧
      (phraseExpression "road trip".toList).isIn ("My ".toList ++ "road trip".toList ++ " home".toList) = true ∧
      (rootExpression "road trip".toList).isIn ("road trip".toList ++ " home".toList) = true ∧
      ¬ Text.IsEdged "10\u00B2".toList ∧ (phraseExpression "10\u00B2".toList).isIn "10\u00B2".toList = false := by
  have hedged : Text.IsEdged "road trip".toList := by decide +kernel
  have hnot : ¬ Text.IsEdged "10\u00B2".toList := by decide +kernel
  obtain ⟨-, -, hfound, -⟩ := whole_words_are_found (t := "road trip".toList) (by decide) (by decide +kernel)
  obtain ⟨-, -, -, hlost⟩ := whole_words_are_found (t := "10\u00B2".toList) (by decide) (by decide +kernel)
  obtain ⟨hphrase, hroot⟩ := hfound hedged "My ".toList " home".toList (by simp [isBlankChar]) (by simp [isBlankChar])
  exact ⟨hedged, hphrase, hroot, hnot, (hlost hnot).1⟩

/-- A superscript two, which is a number and no word character, is not found where it stands alone. -/
theorem superscript_two_is_not_found :
    Text.trim ['\u00B2'] = ['\u00B2'] ∧
      Pattern.read? (phrasePattern ['\u00B2']) = some (phraseExpression ['\u00B2']) ∧
      (phraseExpression ['\u00B2']).isIn ([] ++ ['\u00B2'] ++ []) = false ∧
      Pattern.read? (rootPattern ['\u00B2']) = some (rootExpression ['\u00B2']) ∧
      (rootExpression ['\u00B2']).isIn (['\u00B2'] ++ []) = false := by
  have hphrase : (phraseExpression ['\u00B2']).isTooLarge = false := by cbv
  have hroot : (rootExpression ['\u00B2']).isTooLarge = false := by decide +kernel
  have hlost : (phraseExpression ['\u00B2']).isIn ['\u00B2'] = false := by decide +kernel
  have hlost' : (rootExpression ['\u00B2']).isIn ['\u00B2'] = false := by decide +kernel
  refine ⟨by decide +kernel, ?_, hlost, ?_, hlost'⟩
  · rw [read?_phrasePattern, hphrase]
    rfl
  · rw [read?_rootPattern, hroot]
    rfl

end Notebook
