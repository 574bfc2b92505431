import Notebook.Proofs.Pattern.Phrases
import Notebook.Proofs.Text.Runs

/-! # Plain words are no syntax

Whatever signs are in a phrase, the expression for it is read as one item for each maximal run of blanks and one for
each other character, between edges of words.
-/

namespace Notebook

open Text

/-! ## Phrases run by run -/

section

variable {α : Type} (blanks : List α) (letter : Char → α) (edge : α)

/-- What stands for a phrase: an edge where a part of a word is at an end, and in between the same for every maximal
run of blanks, and something for every other character. -/
def wordItems (words : Text) : List α :=
  (if words.head?.any isWordPart then [edge] else [])
    ++ (runs isBlankChar words).flatMap (fun run => if run.any isBlankChar then blanks else run.map letter)
    ++ (if words.getLast?.any isWordPart then [edge] else [])

variable {blanks letter} {f : Text → List α}

theorem eq_items (hnil : f [] = []) (hcons : ∀ c rest, f (c :: rest) =
    if isBlankChar c then (if rest.head?.any isBlankChar then [] else blanks) ++ f rest else letter c :: f rest)
    (words : Text) :
    f words = (runs isBlankChar words).flatMap fun run => if run.any isBlankChar then blanks else run.map letter := by
  have h : f words = (runs isBlankChar words).flatMap fun run =>
      if run.any isBlankChar then blanks else run.flatMap fun c => [letter c] := eq_flatMap_runs hcons hnil words
  simpa only [← List.map_eq_flatMap] using h

end

theorem wordPieces_eq (words : Text) :
    wordPieces words = wordItems [.set .blank 0, .repeated 1 none] .letter (.place .edge) words := by
  have hphrase := eq_items (f := phrasePieces) rfl (fun c rest => by rw [phrasePieces]) words
  rw [wordPieces, wordItems, ← hphrase]
  rfl

def wordPatterns : Text → List Pattern :=
  wordItems [.repeated (.oneOf true .blank) 1 none] (.letter true) (.place .edge)

theorem map_wordParts (words : Text) : (wordParts words).map (·.pattern) = wordPatterns words := by
  have hedge (c : Option Char) :
      (edgeParts c).map (·.pattern) = if c.any isWordPart then [.place .edge] else [] := by
    unfold edgeParts
    split <;> rfl
  have hcons (c : Char) (rest : Text) : (phraseParts (c :: rest)).map (·.pattern) =
      if isBlankChar c then (if rest.head?.any isBlankChar then [] else [.repeated (.oneOf true .blank) 1 none])
        ++ (phraseParts rest).map (·.pattern)
      else .letter true c :: (phraseParts rest).map (·.pattern) := by
    rw [phraseParts]
    split
    · split <;> simp [blanksPart]
    · rfl
  have hphrase := eq_items (f := fun words => (phraseParts words).map (·.pattern)) rfl hcons words
  rw [wordParts, List.map_append, List.map_append, hedge, hedge, wordPatterns, wordItems, ← hphrase]

/-! ## Blanks replaced behind the escaping -/

def blanksReplaced (t : Text) : Text :=
  (runs isBlankChar t).flatMap fun run => if run.any isBlankChar then blanksPattern else run

theorem not_blank_of_mem_escapedLetter {c : Char} (hc : isBlankChar c = false) :
    ∀ d ∈ escapedLetter c, isBlankChar d = false := by
  unfold escapedLetter
  split
  · exact List.forall_mem_cons.2 ⟨rfl, by simpa using hc⟩
  · simpa using hc

theorem escapedLetter_blank {c : Char} (hc : isBlankChar c = true) : escapedLetter c = [c] := by
  have hplain : specialChars.all (fun d => !isBlankChar d) = true := by decide
  refine if_neg fun hspecial => ?_
  simpa [hc] using List.all_eq_true.1 hplain c hspecial

theorem blanksReplaced_append {a : Text} (ha : ∀ c ∈ a, isBlankChar c = false) (t : Text) :
    blanksReplaced (a ++ t) = a ++ blanksReplaced t := by
  induction a with
  | nil => rfl
  | cons c rest ih =>
    obtain ⟨hc, hrest⟩ := List.forall_mem_cons.1 ha
    have hstep : blanksReplaced (c :: (rest ++ t)) = c :: blanksReplaced (rest ++ t) := by
      simp [blanksReplaced, runs_other hc, hc]
    rw [List.cons_append, hstep, ih hrest, List.cons_append]

theorem head?_escaped {t : Text} (ht : ∀ c ∈ t.head?, isBlankChar c = false) :
    ∀ c ∈ (t.flatMap escapedLetter).head?, isBlankChar c = false := by
  cases t with
  | nil => simp
  | cons c rest =>
    have hletter := not_blank_of_mem_escapedLetter (ht c rfl)
    obtain ⟨d, more, hd⟩ : ∃ d more, escapedLetter c = d :: more := by
      unfold escapedLetter
      split <;> exact ⟨_, _, rfl⟩
    rw [List.flatMap_cons, hd]
    rintro e he
    obtain rfl : d = e := by simpa using he
    exact hletter d (by simp [hd])

/-- The expression for a phrase is its escaped text with the runs of blanks replaced: escaping neither makes a blank
nor parts two. -/
theorem phraseBody_eq_replaced (t : Text) : phraseBody t = blanksReplaced (t.flatMap escapedLetter) := by
  induction t using Text.runInduction (p := isBlankChar) with
  | nil => rfl
  | other c t hc ih =>
    rw [phraseBody, if_neg (by simp [hc]), List.flatMap_cons,
      blanksReplaced_append (not_blank_of_mem_escapedLetter hc), ih]
  | run run t hne hall ht ih =>
    have hany : run.any isBlankChar = true := by
      obtain ⟨c, rest, rfl⟩ := List.exists_cons_of_ne_nil hne
      simp [hall c]
    -- Blanks are not escaped, and what is escaped behind them begins with no blank, so the run stays as it is.
    have hescaped : run.flatMap escapedLetter = run := by
      rw [List.flatMap_congr fun c hc => escapedLetter_blank (hall c hc), List.flatMap_singleton']
    have hreplaced : blanksReplaced (run ++ t.flatMap escapedLetter)
        = blanksPattern ++ blanksReplaced (t.flatMap escapedLetter) := by
      rw [blanksReplaced, runs_run hne hall (head?_escaped ht), List.flatMap_cons, if_pos hany]
      rfl
    rw [eq_once_of_run (f := phraseBody) (fun c rest => by rw [phraseBody]) hne hall ht, List.flatMap_append, hescaped, hreplaced, ih]

end Notebook
