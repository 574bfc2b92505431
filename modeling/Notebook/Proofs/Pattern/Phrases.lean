import Mathlib
import Notebook.Pattern.Reading
import Notebook.Query.Words

/-! # Expressions for phrases

What is written for a phrase is read as its letters and its blanks between edges of words, whatever signs are in the
phrase. Only the room that it takes can keep an expression for a phrase from being read.
-/

namespace Notebook

/-! ## The pieces of a phrase -/

def phrasePieces : Text → List PatternPiece
  | [] => []
  | c :: rest =>
    if Text.isBlankChar c then
      (if rest.head?.any Text.isBlankChar then [] else [.set .blank 0, .repeated 1 none]) ++ phrasePieces rest
    else .letter c :: phrasePieces rest

def edgePieces (c : Option Char) : List PatternPiece := if c.any isWordPart then [.place .edge] else []

def wordPieces (t : Text) : List PatternPiece := edgePieces t.head? ++ phrasePieces t ++ edgePieces t.getLast?

/-! ## Piece by piece -/

theorem patternPieces?_of_readPiece? {start rest : Text} {piece : PatternPiece}
    (h : readPiece? (start ++ rest) = some (piece, rest)) (hstart : start ≠ []) :
    patternPieces? (start ++ rest) = (patternPieces? rest).map (piece :: ·) := by
  have hshorter : rest.length < (start ++ rest).length := by
    rw [List.length_append]
    exact Nat.lt_add_of_pos_left (List.length_pos_iff.2 hstart)
  rw [patternPieces?, if_neg (List.append_ne_nil_of_left_ne_nil hstart rest), h]
  exact dif_pos hshorter

theorem readPiece?_escapedLetter (c : Char) (rest : Text) :
    readPiece? (escapedLetter c ++ rest) = some (.letter c, rest) := by
  unfold escapedLetter
  split
  · rename_i hspecial
    have hall : specialChars.all isEscapable = true := by decide
    have hescapable : isEscapable c = true := List.all_eq_true.1 hall c hspecial
    simp only [List.cons_append, List.nil_append, readPiece?, readEscape?, hescapable, if_true]
    rfl
  · rename_i hplain
    rw [List.singleton_append]
    unfold readPiece?
    dsimp only
    -- Every sign that is read as more than a letter is special.
    split <;> first | rfl | exact absurd (by decide) hplain

/-- A text that goes on with a character that changes nothing about what was read before it. -/
def IsNext (rest : Text) : Prop := ∀ c ∈ rest.head?, c ≠ '?' ∧ c ≠ '\x7b'

theorem dropLazy_next {rest : Text} (h : IsNext rest) : dropLazy rest = rest := by
  unfold dropLazy
  split
  · exact absurd rfl (h '?' rfl).1
  · rfl

theorem readEdge?_next {rest : Text} (h : IsNext rest) : readEdge? rest = some (.edge, rest) := by
  unfold readEdge?
  split
  · exact absurd rfl (h '\x7b' rfl).2
  · exact absurd rfl (h '\x7b' rfl).2
  · rfl

theorem isNext_phraseBody (t : Text) {rest : Text} (h : IsNext rest) : IsNext (phraseBody t ++ rest) := by
  induction t with
  | nil => exact h
  | cons c t ih =>
    rw [phraseBody]
    split
    · split
      · exact ih
      · have hhead : ∀ more, (blanksPattern ++ more).head? = some '\\' := fun _ => rfl
        intro d hd
        rw [List.append_assoc, hhead, Option.mem_some_iff] at hd
        exact hd ▸ by decide
    · intro d hd
      unfold escapedLetter at hd
      split at hd
      · obtain rfl : '\\' = d := by simpa using hd
        decide
      · rename_i hplain
        obtain rfl : c = d := by simpa using hd
        constructor <;> (rintro rfl; exact hplain (by decide))

theorem patternPieces?_phraseBody (t : Text) {rest : Text} (h : IsNext rest) :
    patternPieces? (phraseBody t ++ rest) = (patternPieces? rest).map (phrasePieces t ++ ·) := by
  induction t with
  | nil => simp [phraseBody, phrasePieces]
  | cons c t ih =>
    have hnext := isNext_phraseBody t h
    rw [phraseBody, phrasePieces]
    split
    · split
      · exact ih
      · -- The sign for blanks, then the sign that repeats it.
        have hset : readPiece? (['\\', 's'] ++ (['+'] ++ (phraseBody t ++ rest)))
            = some (.set .blank 0, ['+'] ++ (phraseBody t ++ rest)) := rfl
        have hrepeated : readPiece? (['+'] ++ (phraseBody t ++ rest)) = some (.repeated 1 none, phraseBody t ++ rest) := by
          rw [List.singleton_append, readPiece?, dropLazy_next hnext]
        have hblanks : blanksPattern ++ phraseBody t ++ rest = ['\\', 's'] ++ (['+'] ++ (phraseBody t ++ rest)) := rfl
        rw [hblanks, patternPieces?_of_readPiece? hset (by simp), patternPieces?_of_readPiece? hrepeated (by simp), ih]
        simp [Option.map_map, Function.comp_def]
    · have hletter : escapedLetter c ≠ [] := by
        unfold escapedLetter
        split <;> simp
      rw [List.append_assoc, patternPieces?_of_readPiece? (readPiece?_escapedLetter c _) hletter, ih]
      simp [Option.map_map, Function.comp_def]

theorem patternPieces?_edgeFor (c : Option Char) {rest : Text} (h : IsNext rest) :
    patternPieces? (edgeFor c ++ rest) = (patternPieces? rest).map (edgePieces c ++ ·) := by
  unfold edgeFor edgePieces
  split
  · have hedge : readPiece? ("\\b".toList ++ rest) = some (.place .edge, rest) := by
      have hescape : readEscape? ('b' :: rest) = some (.place .edge, rest) := by
        simp [readEscape?, isEscapable, readEdge?_next h]
      have hpiece : readPiece? ('\\' :: 'b' :: rest) = some (.place .edge, rest) := by
        rw [readPiece?, hescape]
        rfl
      exact hpiece
    rw [patternPieces?_of_readPiece? hedge (by decide)]
    rfl
  · simp

theorem isNext_edgeFor (c : Option Char) : IsNext (edgeFor c) := by
  unfold edgeFor
  split
  · intro d hd
    obtain rfl : '\\' = d := by simpa using hd
    decide
  · simp [IsNext]

theorem patternPieces?_wordPattern (t : Text) : patternPieces? (wordPattern t) = some (wordPieces t) := by
  have hend := isNext_edgeFor t.getLast?
  have hlast : patternPieces? (edgeFor t.getLast?) = (patternPieces? []).map (edgePieces t.getLast? ++ ·) := by
    rw [← patternPieces?_edgeFor _ (by simp [IsNext]), List.append_nil]
  rw [wordPattern, List.append_assoc, patternPieces?_edgeFor _ (isNext_phraseBody t hend),
    patternPieces?_phraseBody t hend, hlast]
  simp [wordPieces, patternPieces?]

theorem patternPieces?_phrasePattern (t : Text) :
    patternPieces? (phrasePattern t) = some (.flags [('i', true)] :: wordPieces t) := by
  have hflags : readPiece? ("(?i)".toList ++ wordPattern t) = some (.flags [('i', true)], wordPattern t) := rfl
  rw [phrasePattern, patternPieces?_of_readPiece? hflags (by decide), patternPieces?_wordPattern]
  rfl

theorem patternPieces?_rootPattern (t : Text) :
    patternPieces? (rootPattern t) = some (.flags [('i', true)] :: .lineStart :: wordPieces t) := by
  have hflags : readPiece? ("(?i)".toList ++ (['^'] ++ wordPattern t))
      = some (.flags [('i', true)], ['^'] ++ wordPattern t) := rfl
  have hstart : readPiece? (['^'] ++ wordPattern t) = some (.lineStart, wordPattern t) := rfl
  have hpattern : rootPattern t = "(?i)".toList ++ (['^'] ++ wordPattern t) := rfl
  rw [hpattern, patternPieces?_of_readPiece? hflags (by decide), patternPieces?_of_readPiece? hstart (by decide),
    patternPieces?_wordPattern]
  rfl

/-! ## The parts of a phrase -/

def blanksPart : PatternPart := ⟨.repeated (.oneOf true .blank) 1 none, 1, false⟩

def phraseParts : Text → List PatternPart
  | [] => []
  | c :: rest =>
    if Text.isBlankChar c then (if rest.head?.any Text.isBlankChar then [] else [blanksPart]) ++ phraseParts rest
    else ⟨.letter true c, 0, false⟩ :: phraseParts rest

def edgeParts (c : Option Char) : List PatternPart := if c.any isWordPart then [⟨.place .edge, 0, false⟩] else []

def wordParts (t : Text) : List PatternPart := edgeParts t.head? ++ phraseParts t ++ edgeParts t.getLast?

def phraseExpression (t : Text) : Pattern := sequence (.empty :: (wordParts t).map (·.pattern))

def rootExpression (t : Text) : Pattern := sequence (.empty :: .place .textStart :: (wordParts t).map (·.pattern))

section

variable {flags : PatternFlags} (hflags : flags.anyCase = true)

include hflags

theorem assemble?_phrasePieces (t : Text) (outer : List OpenGroup) (g : OpenGroup) (more : List PatternPiece) :
    assemble? outer flags g (phrasePieces t ++ more)
      = assemble? outer flags { g with parts := (phraseParts t).reverse ++ g.parts } more := by
  induction t generalizing g with
  | nil => rfl
  | cons c t ih =>
    rw [phrasePieces, phraseParts]
    split
    · split
      · exact ih g
      · have hblanks : assemble? outer flags g (.set .blank 0 :: .repeated 1 none :: (phrasePieces t ++ more))
            = assemble? outer flags (g.add blanksPart) (phrasePieces t ++ more) := by
          rw [blanksPart, ← hflags]
          rfl
        rw [List.append_assoc]
        exact hblanks.trans ((ih _).trans (by simp [OpenGroup.add]))
    · have hletter : assemble? outer flags g (.letter c :: (phrasePieces t ++ more))
          = assemble? outer flags (g.add ⟨.letter true c, 0, false⟩) (phrasePieces t ++ more) := by
        rw [← hflags]
        rfl
      exact hletter.trans ((ih _).trans (by simp [OpenGroup.add]))

omit hflags in
theorem assemble?_edgePieces (c : Option Char) (outer : List OpenGroup) (g : OpenGroup) (more : List PatternPiece) :
    assemble? outer flags g (edgePieces c ++ more)
      = assemble? outer flags { g with parts := (edgeParts c).reverse ++ g.parts } more := by
  unfold edgePieces edgeParts
  split <;> rfl

theorem assemble?_wordPieces (t : Text) (g : OpenGroup) :
    assemble? [] flags g (wordPieces t) = some { g with parts := (wordParts t).reverse ++ g.parts }.inside := by
  have hlast (g : OpenGroup) : assemble? [] flags g (edgePieces t.getLast?)
      = assemble? [] flags { g with parts := (edgeParts t.getLast?).reverse ++ g.parts } [] := by
    rw [← assemble?_edgePieces, List.append_nil]
  rw [wordPieces, List.append_assoc, assemble?_edgePieces, assemble?_phrasePieces hflags, hlast]
  simp [assemble?, wordParts]

end

theorem pattern_inSequence (parts : List PatternPart) : (inSequence parts).pattern = sequence (parts.map (·.pattern)) := by
  match parts with
  | [] => rfl
  | [part] => rfl
  | p :: q :: rest => rfl

theorem depth_inSequence {parts : List PatternPart} {n : Nat} (h : ∀ part ∈ parts, part.depth ≤ n) :
    (inSequence parts).depth ≤ n + 1 := by
  have hmax (parts : List PatternPart) (a : Nat) (ha : a ≤ n) (h : ∀ part ∈ parts, part.depth ≤ n) :
      (parts.map (·.depth)).foldl max a ≤ n := by
    induction parts generalizing a with
    | nil => exact ha
    | cons part rest ih =>
      exact ih _ (Nat.max_le.2 ⟨ha, h part (by simp)⟩) fun other hother => h other (.tail _ hother)
  match parts with
  | [] => exact Nat.zero_le _
  | [part] => exact Nat.le_succ_of_le (h part (by simp))
  | p :: q :: rest => exact Nat.succ_le_succ (hmax (p :: q :: rest) 0 (Nat.zero_le _) h)

theorem depth_wordParts {t : Text} : ∀ part ∈ wordParts t, part.depth ≤ 1 := by
  have hedge (c : Option Char) : ∀ part ∈ edgeParts c, part.depth ≤ 1 := by
    unfold edgeParts
    split <;> simp
  have hphrase (t : Text) : ∀ part ∈ phraseParts t, part.depth ≤ 1 := by
    induction t with
    | nil => simp [phraseParts]
    | cons c t ih =>
      rw [phraseParts]
      split
      · refine List.forall_mem_append.2 ⟨?_, ih⟩
        split <;> simp [blanksPart]
      · exact List.forall_mem_cons.2 ⟨Nat.zero_le _, ih⟩
  exact List.forall_mem_append.2 ⟨List.forall_mem_append.2 ⟨hedge _, hphrase t⟩, hedge _⟩

theorem groupNames_wordPieces (t : Text) : groupNames (wordPieces t) = [] := by
  have hedge (c : Option Char) : groupNames (edgePieces c) = [] := by
    unfold edgePieces
    split <;> rfl
  have hphrase (t : Text) : groupNames (phrasePieces t) = [] := by
    induction t with
    | nil => rfl
    | cons c t ih =>
      rw [phrasePieces]
      split
      · split
        · exact ih
        · exact ih
      · exact ih
  have happend (a b : List PatternPiece) : groupNames (a ++ b) = groupNames a ++ groupNames b :=
    List.filterMap_append
  rw [wordPieces, happend, happend, hedge, hphrase, hedge]
  rfl

/-! ## What is read -/

theorem read?_of_parts {t : Text} {pieces : List PatternPiece} {parts : List PatternPart}
    (hpieces : patternPieces? t = some pieces) (hnames : groupNames pieces = [])
    (hparts : assemble? [] .off .outermost pieces = some (inSequence parts)) (hdepth : ∀ part ∈ parts, part.depth ≤ 1) :
    Pattern.read? t = if (sequence (parts.map (·.pattern))).isTooLarge then none
      else some (sequence (parts.map (·.pattern))) := by
  have hshallow : (inSequence parts).depth ≤ greatestDepth := Nat.le_trans (depth_inSequence hdepth) (by decide)
  rw [Pattern.read?, hpieces]
  simp only [hnames, List.nodup_nil, hparts, hshallow, pattern_inSequence]
  cases (sequence (parts.map (·.pattern))).isTooLarge <;> rfl

theorem inside_of_parts (parts : List PatternPart) : (⟨.off, false, [], parts.reverse⟩ : OpenGroup).inside
    = inSequence parts := by
  rw [OpenGroup.inside, OpenGroup.bar, List.reverse_reverse]
  rfl

theorem read?_phrasePattern (t : Text) :
    Pattern.read? (phrasePattern t) = if (phraseExpression t).isTooLarge then none else some (phraseExpression t) := by
  have hparts : assemble? [] .off .outermost (.flags [('i', true)] :: wordPieces t)
      = some (inSequence (⟨.empty, 0, true⟩ :: wordParts t)) := by
    rw [assemble?, assemble?_wordPieces rfl, ← inside_of_parts]
    simp [OpenGroup.add, OpenGroup.outermost]
  have hread := read?_of_parts (patternPieces?_phrasePattern t) (groupNames_wordPieces t) hparts
    (List.forall_mem_cons.2 ⟨Nat.zero_le _, depth_wordParts⟩)
  rwa [List.map_cons, ← phraseExpression] at hread

theorem read?_rootPattern (t : Text) :
    Pattern.read? (rootPattern t) = if (rootExpression t).isTooLarge then none else some (rootExpression t) := by
  have hparts : assemble? [] .off .outermost (.flags [('i', true)] :: .lineStart :: wordPieces t)
      = some (inSequence (⟨.empty, 0, true⟩ :: ⟨.place .textStart, 0, false⟩ :: wordParts t)) := by
    have hstart : assemble? [] .off .outermost (.flags [('i', true)] :: .lineStart :: wordPieces t)
        = assemble? [] ⟨true, false, false⟩
          ((OpenGroup.outermost.add ⟨.empty, 0, true⟩).add ⟨.place .textStart, 0, false⟩) (wordPieces t) := rfl
    rw [hstart, assemble?_wordPieces rfl, ← inside_of_parts]
    simp [OpenGroup.add, OpenGroup.outermost]
  have hread := read?_of_parts (patternPieces?_rootPattern t) (groupNames_wordPieces t) hparts
    (List.forall_mem_cons.2 ⟨Nat.zero_le _, List.forall_mem_cons.2 ⟨Nat.zero_le _, depth_wordParts⟩⟩)
  rwa [List.map_cons, List.map_cons, ← rootExpression] at hread

/-! ## Room -/

end Notebook
