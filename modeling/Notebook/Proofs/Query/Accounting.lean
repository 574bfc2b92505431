import Mathlib.Data.List.Basic
import Notebook.Proofs.Query.FieldTerms

/-! # Every term counts once

What a request asks for is put together from what each of its terms adds. A blank term adds nothing, and any other
term adds one condition or, if it is for a field and cannot be read, one warning.
-/

namespace Notebook

/-! ## Terms of every kind -/

inductive TermKind where
  | path
  | text
  | field
  | tag
  deriving DecidableEq, Repr

def TermKind.table : TermKind → Table
  | path | text => .records
  | field | tag => .tags

structure Term where
  kind : TermKind
  words : Text
  deriving DecidableEq, Repr

/-- The terms of a request in the order in which they count, with the root as a marked term for paths. -/
def Request.asked (r : Request) : List Term :=
  r.paths.map (⟨.path, ·⟩) ++ (r.root.map fun root => ⟨.path, rootMark :: root⟩).toList
    ++ r.texts.map (⟨.text, ·⟩) ++ r.fields.map (⟨.field, ·⟩) ++ r.tags.map (⟨.tag, ·⟩)

structure Addition where
  conditions : List Condition
  warnings : List Text
  deriving DecidableEq, Repr

namespace Term

/-- The words without the blanks around them, and without the mark that a term for paths may have in front. -/
def content : Term → Text
  | ⟨.path, words⟩ => if words.trim.head? = some Request.rootMark then Text.trim words.trim.tail else words.trim
  | ⟨_, words⟩ => words.trim

def addition : Term → Addition
  | ⟨.path, words⟩ => ⟨(pathCondition? words).toList, []⟩
  | ⟨.text, words⟩ => ⟨(textCondition? words).toList, []⟩
  | ⟨.field, words⟩ => ⟨(fieldTerm words).condition?.toList, (fieldTerm words).warning?.toList⟩
  | ⟨.tag, words⟩ => ⟨(tagCondition? words).toList, []⟩

inductive Adds (term : Term) : Addition → Prop
  | nothing : term.content = [] → Adds term ⟨[], []⟩
  | condition (c : Condition) : term.content ≠ [] → c.table = term.kind.table → Adds term ⟨[c], []⟩
  | warning (w : Text) : term.content ≠ [] → term.kind = .field → term.words <:+ w → Adds term ⟨[], [w]⟩

end Term

/-! ## Terms for fields -/

/-- Whether an outcome settles a term for a field: a condition on tags, or a warning that ends with the term. -/
def FieldTerm.Settles (term : Text) : FieldTerm → Prop
  | condition c => c.table = .tags
  | refused w => term <:+ w
  | other => False

theorem FieldTerm.Settles.orElse {term : Text} {first next : FieldTerm} (hfirst : first = .other ∨ first.Settles term)
    (hnext : next.Settles term) : (first.orElse next).Settles term := by
  cases first with
  | other => exact hnext
  | condition c => exact hfirst.resolve_left (by simp)
  | refused w => exact hfirst.resolve_left (by simp)

theorem settles_comparisonTerm (term : Text) :
    comparisonTerm term = .other ∨ (comparisonTerm term).Settles term := by
  rcases comparisonTerm_cases term with h | ⟨_, _, _, -, -, h⟩ | h
  · exact .inl h
  · exact .inr (h ▸ rfl)
  · exact .inr (h ▸ List.suffix_append _ term)

theorem settles_matchingTerm (word : Text) (pattern : Text → Text) (term : Text) :
    matchingTerm word pattern term = .other ∨ (matchingTerm word pattern term).Settles term := by
  rcases matchingTerm_cases word pattern term with h | ⟨_, _, -, -, h⟩
  · exact .inl h
  · exact .inr (h ▸ rfl)

theorem settles_fieldTerm {term : Text} (h : term.trim ≠ []) : (fieldTerm term).Settles term := by
  have hrefused : (FieldTerm.refused ("BAD FIELD: OPERATOR NOT FOUND: ".toList ++ term)).Settles term :=
    List.suffix_append _ term
  rw [fieldTerm, if_neg h]
  exact .orElse (settles_comparisonTerm term)
    (.orElse (settles_matchingTerm _ _ term) (.orElse (settles_matchingTerm _ _ term) hrefused))

/-! ## One term -/

namespace Term

theorem pathCondition?_eq (words : Text) :
    pathCondition? words = if content ⟨.path, words⟩ = [] then none
      else some (.path ((if words.trim.head? = some Request.rootMark then rootPattern else phrasePattern)
        (content ⟨.path, words⟩))) := by
  unfold pathCondition?
  rw [content]
  cases words.trim with
  | nil => rfl
  | cons c rest => by_cases hc : c = Request.rootMark <;> simp [hc]

theorem adds_addition (term : Term) : term.Adds term.addition := by
  obtain ⟨kind, words⟩ := term
  cases kind with
  | path =>
    rw [addition, pathCondition?_eq]
    split
    · rename_i h
      exact .nothing h
    · rename_i h
      exact .condition _ h rfl
  | text =>
    rw [addition, textCondition?]
    split
    · rename_i h
      exact .nothing h
    · rename_i h
      exact .condition _ h rfl
  | field =>
    by_cases h : words.trim = []
    · rw [addition, fieldTerm, if_pos h]
      exact .nothing h
    · have hsettles := settles_fieldTerm h
      rw [addition]
      cases hfield : fieldTerm words with
      | condition c =>
        rw [hfield] at hsettles
        exact .condition c h hsettles
      | refused w =>
        rw [hfield] at hsettles
        exact .warning w h rfl hsettles
      | other =>
        rw [hfield] at hsettles
        exact hsettles.elim
  | tag =>
    rw [addition, tagCondition?]
    split
    · rename_i h
      exact .nothing h
    · rename_i h
      exact .condition _ h rfl

variable {term : Term}

theorem addition_of_blank (h : term.content = []) : term.addition = ⟨[], []⟩ := by
  have hadds := term.adds_addition
  generalize term.addition = addition at hadds
  cases hadds with
  | nothing => rfl
  | condition c hne => exact absurd h hne
  | warning w hne => exact absurd h hne

theorem conditions_of_blank_or_warned (h : term.content = [] ∨ term.addition.warnings ≠ []) :
    term.addition.conditions = [] := by
  rcases h with h | h
  · rw [addition_of_blank h]
  · have hadds := term.adds_addition
    generalize term.addition = addition at hadds h
    cases hadds with
    | nothing => rfl
    | condition c => exact absurd rfl h
    | warning w => rfl

end Term

/-! ## All terms -/

namespace Request

variable (r : Request)

theorem asked_eq : r.asked = r.pathTerms.map (⟨.path, ·⟩) ++ r.texts.map (⟨.text, ·⟩) ++ r.fields.map (⟨.field, ·⟩)
    ++ r.tags.map (⟨.tag, ·⟩) := by
  cases hroot : r.root <;> simp [asked, pathTerms, hroot]

theorem conditions_eq : r.conditions = r.asked.flatMap fun term => term.addition.conditions := by
  simp only [conditions, asked_eq, List.flatMap_append, List.flatMap_map, List.filterMap_eq_flatMap_toList]
  rfl

theorem warnings_eq : r.warnings = r.asked.flatMap fun term => term.addition.warnings := by
  have hnone (terms : List Text) : (terms.flatMap fun _ => ([] : List Text)) = [] := by simp
  simp only [warnings, asked_eq, List.flatMap_append, List.flatMap_map, List.filterMap_eq_flatMap_toList,
    Term.addition, hnone, List.append_nil, List.nil_append]

theorem blank_of_not_hasCriteria (h : r.hasCriteria = false) : ∀ term ∈ r.asked, term.content = [] := by
  simp only [hasCriteria, Bool.or_eq_false_iff, Option.isSome_eq_false_iff, Option.isNone_iff_eq_none,
    List.any_eq_false, decide_eq_true_eq, not_not, List.forall_mem_append] at h
  obtain ⟨hroot, ⟨⟨hpaths, htexts⟩, htags⟩, hfields⟩ := h
  simp only [asked, hroot, Option.map_none, Option.toList_none, List.append_nil, List.forall_mem_append,
    List.forall_mem_map]
  have hpath (words : Text) (hwords : words.trim = []) : (Term.mk .path words).content = [] := by
    rw [Term.content, hwords]
    rfl
  exact ⟨⟨⟨fun words h => hpath words (hpaths words h), htexts⟩, hfields⟩, htags⟩

end Request

/-- The conditions and warnings of a request are what its terms add, each once and in order. A term that is blank or
warned of can be left out, which takes nothing but its own warning away, and a request without criteria comes to
nothing. -/
theorem every_term_counts_once (r : Request) :
    (r.conditions = r.asked.flatMap fun term => term.addition.conditions) ∧
    (r.warnings = r.asked.flatMap fun term => term.addition.warnings) ∧
    (∀ term : Term, term.Adds term.addition) ∧
    (∀ (other : Request) (before after : List Term) (term : Term),
      r.asked = before ++ term :: after → other.asked = before ++ after →
      term.content = [] ∨ term.addition.warnings ≠ [] →
      other.conditions = r.conditions ∧ ∃ front back,
        r.warnings = front ++ term.addition.warnings ++ back ∧ other.warnings = front ++ back) ∧
    (r.hasCriteria = false → r.conditions = [] ∧ r.warnings = []) := by
  refine ⟨r.conditions_eq, r.warnings_eq, Term.adds_addition, ?_, fun hnone => ?_⟩
  · intro other before after term hr hother hterm
    have hconditions := Term.conditions_of_blank_or_warned hterm
    simp only [Request.conditions_eq, Request.warnings_eq, hr, hother, List.flatMap_append, List.flatMap_cons,
      hconditions, List.nil_append, true_and]
    exact ⟨_, _, (List.append_assoc ..).symm, rfl⟩
  · have hblank := r.blank_of_not_hasCriteria hnone
    rw [r.conditions_eq, r.warnings_eq, List.flatMap_eq_nil_iff, List.flatMap_eq_nil_iff]
    constructor
    · intro term hterm
      rw [Term.addition_of_blank (hblank term hterm)]
    · intro term hterm
      rw [Term.addition_of_blank (hblank term hterm)]

def mixed : Request :=
  { Request.blank with
    paths := ["^ books".toList, " ^ ".toList]
    root := some " ".toList
    texts := ["robot".toList]
    fields := ["year=>1980".toList, "nonsense".toList, "year<2000".toList]
    tags := [" ".toList, "cat".toList] }

theorem every_term_counts_once_mixed :
    (Term.mk .field "year=>1980".toList).addition.warnings ≠ [] ∧
      { mixed with fields := ["nonsense".toList, "year<2000".toList] }.conditions = mixed.conditions ∧
      mixed.conditions.length = 4 ∧ mixed.warnings.length = 2 ∧
      Request.blank.hasCriteria = false ∧ Request.blank.conditions = [] ∧ Request.blank.warnings = [] := by
  have hwarned : (Term.mk .field "year=>1980".toList).addition.warnings ≠ [] := by decide
  have hmixed : mixed.asked = [⟨.path, "^ books".toList⟩, ⟨.path, " ^ ".toList⟩, ⟨.path, "^ ".toList⟩,
      ⟨.text, "robot".toList⟩] ++ ⟨.field, "year=>1980".toList⟩ :: [⟨.field, "nonsense".toList⟩,
      ⟨.field, "year<2000".toList⟩, ⟨.tag, " ".toList⟩, ⟨.tag, "cat".toList⟩] := by decide
  obtain ⟨-, -, -, hremove, -⟩ := every_term_counts_once mixed
  obtain ⟨hsame, -⟩ := hremove { mixed with fields := ["nonsense".toList, "year<2000".toList] } _ _ _ hmixed rfl
    (.inr hwarned)
  obtain ⟨-, -, -, -, hblank⟩ := every_term_counts_once Request.blank
  exact ⟨hwarned, hsame, by decide, by decide, rfl, hblank rfl⟩

end Notebook
