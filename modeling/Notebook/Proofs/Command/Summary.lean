import Notebook.Command.Run
import Notebook.Proofs.Query.Accounting

/-! # What a search says it sought

The summary of a request lists its terms as they were given, and the query leaves blank ones out. So the summary can
tell of a search where nothing is sought.
-/

namespace Notebook

/-! ## Summaries -/

namespace Request

variable {r : Request}

theorem termLines_eq_nil_iff : r.termLines = [] ↔ r.asked = [] := by
  simp only [termLines, asked_eq, List.append_eq_nil_iff, List.map_eq_nil_iff]
  tauto

theorem summary_of_terms (h : r.savedQuery = none) (hne : r.termLines ≠ []) :
    r.summary = "SEARCHING FOR NOTES WITH:".toList ++ '\n' :: Text.joined ['\n'] r.termLines := by
  obtain ⟨first, rest, hlines⟩ := List.exists_cons_of_ne_nil hne
  unfold summary
  rw [h]
  dsimp only
  rw [if_neg hne, hlines, Text.joined_cons_cons, List.append_assoc]
  rfl

theorem summary_eq_nil_iff (h : r.savedQuery = none) : r.summary = [] ↔ r.asked = [] := by
  rw [← termLines_eq_nil_iff]
  constructor
  · intro hsummary
    by_contra hne
    simp [summary_of_terms h hne] at hsummary
  · intro hnone
    unfold summary
    simp only [h, if_pos hnone]

end Request

/-! ## What terms come to -/

theorem Term.addition_eq_nothing_iff {term : Term} :
    term.addition.conditions = [] ∧ term.addition.warnings = [] ↔ term.content = [] := by
  have hadds := term.adds_addition
  generalize term.addition = addition at hadds
  cases hadds with
  | nothing hblank => simp [hblank]
  | condition c hne => simp [hne]
  | warning w hne => simp [hne]

theorem Request.comes_to_nothing_iff {r : Request} :
    r.conditions = [] ∧ r.warnings = [] ↔ ∀ term ∈ r.asked, term.content = [] := by
  rw [conditions_eq, warnings_eq, List.flatMap_eq_nil_iff, List.flatMap_eq_nil_iff, ← forall₂_and]
  simp only [Term.addition_eq_nothing_iff]

/-! ## What is printed -/

namespace Run

/-- A step prints after what was printed before. -/
def Appends {α : Type} (x : Run α) : Prop := ∀ st, st.output <+: (x.run.run st).2.output

variable {α β : Type} {x : Run α} {f : α → Run β}

theorem run_bind (x : Run α) (f : α → Run β) (st : RunState) :
    (x >>= f).run.run st = match x.run.run st with
      | (.ok a, later) => (f a).run.run later
      | (.error p, later) => (.error p, later) := by
  rw [ExceptT.run_bind, StateT.run_bind]
  rcases x.run.run st with ⟨_ | a, later⟩ <;> rfl

theorem appends_pure (a : α) : Appends (pure a : Run α) := fun _ => List.prefix_rfl

theorem appends_print (t : Text) : Appends (print t) := fun _ => List.prefix_append _ _

theorem appends_printPart (o : Output) : Appends (printPart o) := fun _ => List.prefix_append _ _

theorem Appends.bind (hx : Appends x) (hf : ∀ a, Appends (f a)) : Appends (x >>= f) := by
  intro st
  have hfirst := hx st
  rw [run_bind]
  generalize x.run.run st = outcome at hfirst ⊢
  obtain ⟨_ | a, later⟩ := outcome
  · exact hfirst
  · exact hfirst.trans (hf a later)

theorem Appends.forIn {body : α → β → Run (ForInStep β)} (h : ∀ a b, Appends (body a b)) (list : List α) (b : β) :
    Appends (forIn list b body) := by
  induction list generalizing b with
  | nil => exact appends_pure b
  | cons a rest ih =>
    rw [List.forIn_cons]
    apply (h a b).bind
    intro step
    cases step with
    | done b => exact appends_pure b
    | yield b => exact ih b

theorem appends_printNotes (a : Arguments) (notes : Notes) : Appends (printNotes a notes) := by
  unfold printNotes
  refine (Appends.forIn (fun n _ => ?_) _ _).bind fun _ => appends_pure _
  split <;> exact (appends_print _).bind fun _ => appends_pure _

/-- A step goes well and prints nothing. -/
def IsQuiet (x : Run α) : Prop := ∀ st, ∃ a later, x.run.run st = (.ok a, later) ∧ later.output = st.output

theorem isQuiet_notify (ns : List Notice) : IsQuiet (notify ns) := fun _ => ⟨_, _, rfl, rfl⟩

theorem isQuiet_changeStore (o : OpenStore) (s : Store) : IsQuiet (changeStore o s) := by
  intro st
  unfold changeStore keepStore
  cases o.place with
  | none => exact ⟨_, _, rfl, rfl⟩
  | some place => exact ⟨_, _, rfl, rfl⟩

theorem isQuiet_orStop {ε : Type} (problem : ε → RunProblem) (a : α) : IsQuiet (orStop problem (.ok a)) :=
  fun _ => ⟨_, _, rfl, rfl⟩

def Begins (t : Text) (x : Run α) : Prop := ∀ st, st.output ++ [.line t] <+: (x.run.run st).2.output

variable {t : Text}

theorem begins_print {next : Unit → Run β} (h : Appends (next ())) : Begins t (print t >>= next) := fun st =>
  h { st with output := st.output ++ [.line t] }

theorem IsQuiet.begins (hx : IsQuiet x) (hf : ∀ a, Begins t (f a)) : Begins t (x >>= f) := by
  intro st
  obtain ⟨a, later, hrun, houtput⟩ := hx st
  rw [run_bind, hrun, ← houtput]
  exact hf a later

theorem search_begins [Engine] {a : Arguments} {o : OpenStore} {notes : Notes} (hjson : a.json = false)
    (hfound : (o.store.search o.hold a.request).result = .ok notes) :
    Begins (if a.request.summary = [] then "NO SEARCH WAS MADE.".toList else a.request.summary) (search a o) := by
  unfold search
  simp only [hjson, hfound]
  refine (isQuiet_notify _).begins fun _ => (isQuiet_changeStore _ _).begins fun _ => ?_
  refine (isQuiet_orStop _ _).begins fun notes => ?_
  rw [if_neg Bool.false_ne_true]
  split
  · exact begins_print (appends_printNotes a notes)
  · apply begins_print
    refine (appends_print _).bind fun _ => (appends_printPart _).bind fun _ => (appends_printPart _).bind fun _ => ?_
    refine (appends_printPart _).bind fun _ => (appends_printPart _).bind fun _ => (appends_print _).bind fun _ => ?_
    exact (appends_print _).bind fun _ => (appends_print _).bind fun _ => appends_printNotes a notes

theorem search_begins_no_search_iff [Engine] {a : Arguments} {o : OpenStore} {notes : Notes} (hterms : a.request.savedQuery = none)
    (hjson : a.json = false) (hfound : (o.store.search o.hold a.request).result = .ok notes) (st : RunState) :
    st.output ++ [.line "NO SEARCH WAS MADE.".toList] <+: ((search a o).run.run st).2.output ↔
      a.request.asked = [] := by
  have hbegins := search_begins hjson hfound st
  rw [← Request.summary_eq_nil_iff hterms]
  by_cases hsummary : a.request.summary = []
  · rw [if_pos hsummary] at hbegins
    exact iff_of_true hbegins hsummary
  · rw [if_neg hsummary] at hbegins
    refine iff_of_false (fun hno => ?_) hsummary
    -- What is printed first is one line, and the summary begins otherwise.
    have hfirst := List.prefix_of_prefix_length_le hno hbegins (by simp)
    have hsame := List.append_cancel_left (hfirst.eq_of_length (by simp))
    rw [Request.summary_eq_nil_iff hterms, ← Request.termLines_eq_nil_iff] at hsummary
    rw [Request.summary_of_terms hterms hsummary] at hsame
    simp at hsame

end Run

/-! ## The summary and the query -/

/-- A summary is empty if there are no terms, and a query comes to nothing if all terms are blank. So the two agree
unless there are terms and all are blank, of which the command says that it searched. -/
theorem summary_tells_of_search_iff [Engine] (r : Request) (h : r.savedQuery = none) :
    (r.summary = [] ↔ r.asked = []) ∧
    (r.conditions = [] ∧ r.warnings = [] ↔ ∀ term ∈ r.asked, term.content = []) ∧
    ((r.summary = [] ↔ r.conditions = [] ∧ r.warnings = []) ↔ r.asked = [] ∨ ∃ term ∈ r.asked, term.content ≠ []) ∧
    ∀ (a : Arguments) (o : Run.OpenStore) (notes : Notes) (st : RunState), a.request = r → a.json = false →
      (o.store.search o.hold r).result = .ok notes →
      (st.output ++ [.line "NO SEARCH WAS MADE.".toList] <+: ((Run.search a o).run.run st).2.output ↔ r.asked = []) := by
  have hsummary := Request.summary_eq_nil_iff h
  have hnothing : r.conditions = [] ∧ r.warnings = [] ↔ ∀ term ∈ r.asked, term.content = [] :=
    Request.comes_to_nothing_iff
  refine ⟨hsummary, hnothing, ?_, ?_⟩
  · rw [hsummary, hnothing]
    constructor
    · intro hagree
      by_cases hnone : r.asked = []
      · exact .inl hnone
      · have hsought := mt hagree.2 hnone
        push Not at hsought
        exact .inr hsought
    · rintro (hnone | ⟨term, hterm, hne⟩)
      · exact iff_of_true hnone (by simp [hnone])
      · exact iff_of_false (List.ne_nil_of_mem hterm) fun hblank => hne (hblank term hterm)
  · rintro a o notes st rfl hjson hfound
    exact Run.search_begins_no_search_iff h hjson hfound st

def misspelt : Request :=
  { Request.blank with paths := ["^".toList], texts := [" ".toList], fields := ["year=>1980".toList] }

theorem summary_tells_of_search_iff_misspelt :
    misspelt.savedQuery = none ∧ (misspelt.summary = [] ↔ misspelt.conditions = [] ∧ misspelt.warnings = []) ∧
      (Store.fresh.search .free misspelt).result = .ok .empty ∧
      ¬[.line "NO SEARCH WAS MADE.".toList] <+:
        ((Run.search ⟨false, false, false, false, none, [], misspelt⟩ ⟨none, .free, .fresh⟩).run.run
          ⟨⟨[], []⟩, [], []⟩).2.output := by
  obtain ⟨-, -, hagree, hprinted⟩ := summary_tells_of_search_iff misspelt rfl
  have hfound : (Store.fresh.search .free misspelt).result = .ok .empty := by rfl
  refine ⟨rfl, hagree.2 (.inr ⟨⟨.field, "year=>1980".toList⟩, by decide, by decide⟩), hfound, ?_⟩
  have hno := hprinted ⟨false, false, false, false, none, [], misspelt⟩ ⟨none, .free, .fresh⟩ .empty
    ⟨⟨[], []⟩, [], []⟩ rfl rfl hfound
  rw [List.nil_append] at hno
  rw [hno]
  decide

/-- A blank term is summed up as if it were sought. -/
theorem summary_not_empty_of_nothing_sought :
    ¬∀ r : Request, r.savedQuery = none → (r.summary = [] ↔ r.conditions = [] ∧ r.warnings = []) := by
  intro h
  have hblank := h { Request.blank with texts := [" ".toList] } rfl
  exact absurd (hblank.2 (by decide)) (by decide)

end Notebook
