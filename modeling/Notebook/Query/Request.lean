import Notebook.Number.Numeral
import Notebook.Query.Condition
import Notebook.Query.Words
import Notebook.Text.CaseFold

/-! # Search requests

A request names what is sought in the words of the user, and every term becomes a condition that the
notes found must meet. A term that cannot be read is left out with a warning.
-/

namespace Notebook

structure Request where
  paths : List Text
  texts : List Text
  tags : List Text
  fields : List Text
  root : Option Text
  /-- A saved query to run in place of the terms. -/
  savedQuery : Option Text
  saveAs : Option Text
  deriving DecidableEq, Repr

def Request.blank : Request := ⟨[], [], [], [], none, none, none⟩

namespace Request

/-- A path term with this mark in front must match at the start of a path. -/
def rootMark : Char := '^'

def pathTerms (r : Request) : List Text := r.paths ++ (r.root.map (rootMark :: ·)).toList

def hasCriteria (r : Request) : Bool :=
  r.root.isSome || (r.paths ++ r.texts ++ r.tags ++ r.fields).any fun t => t.trim ≠ []

end Request

/-! ## Terms for paths, texts and tags -/

def pathCondition? (term : Text) : Option Condition :=
  match term.trim with
  | [] => none
  | c :: rest =>
    if c = Request.rootMark then
      let words := Text.trim rest
      if words = [] then none else some (.path (rootPattern words))
    else some (.path (phrasePattern (c :: rest)))

def textCondition? (term : Text) : Option Condition :=
  if term.trim = [] then none else some (.text (phrasePattern term.trim))

def tagCondition? (term : Text) : Option Condition :=
  if term.trim = [] then none else some (.tag (meant term.trim))

/-! ## Terms for fields -/

inductive FieldTerm where
  | condition (c : Condition)
  | refused (warning : Text)
  | other
  deriving DecidableEq, Repr

def FieldTerm.orElse : FieldTerm → FieldTerm → FieldTerm
  | other, next => next
  | found, _ => found

/-- Numbers are compared as numbers, and anything else as text. -/
def operandOf (value : Text) : Operand :=
  match readNumber? value with
  | some _ => .numeral value
  | none => .text (meant value)

/-- A name, an operator and a value; the operator is the first run of its characters. -/
def comparisonTerm (term : Text) : FieldTerm :=
  let name := Text.trim (term.takeWhile fun c => !isOperatorChar c)
  let fromSymbol := term.dropWhile fun c => !isOperatorChar c
  let symbol := fromSymbol.takeWhile isOperatorChar
  let value := Text.trim (fromSymbol.dropWhile isOperatorChar)
  if symbol = [] || name = [] || value = [] then .other
  else match Comparison.ofSymbol? symbol with
    | some op => .condition (.compare (meant name) op (operandOf value))
    | none => .refused ("BAD FIELD: OPERATOR NOT SUPPORTED: ".toList ++ term)

def afterAnyCase? : Text → Text → Option Text
  | [], t => some t
  | _ :: _, [] => none
  | c :: start, d :: t => if sameLetter c d then afterAnyCase? start t else none

/-- Cuts a text at the first place where a word stands, in any case. -/
def cutAtWord? (word : Text) : Text → Option (Text × Text)
  | [] => (afterAnyCase? word []).map ([], ·)
  | c :: t =>
    match afterAnyCase? word (c :: t) with
    | some rest => some ([], rest)
    | none => (cutAtWord? word t).map fun (before, rest) => (c :: before, rest)

def matchingTerm (word : Text) (pattern : Text → Text) (term : Text) : FieldTerm :=
  match cutAtWord? word term with
  | none => .other
  | some (name, value) =>
    if name.trim = [] || Text.trim value = [] then .other
    else .condition (.matching (meant name.trim) (meant (pattern (Text.trim value))))

def patternTerm (term : Text) : FieldTerm := matchingTerm " re ".toList id term

def phraseTerm (term : Text) : FieldTerm := matchingTerm " has ".toList phrasePattern term

/-- A blank term is no term, and one of no known form is refused. -/
def fieldTerm (term : Text) : FieldTerm :=
  if term.trim = [] then .other
  else (comparisonTerm term).orElse <| (patternTerm term).orElse <| (phraseTerm term).orElse <|
    .refused ("BAD FIELD: OPERATOR NOT FOUND: ".toList ++ term)

def FieldTerm.condition? : FieldTerm → Option Condition
  | condition c => some c
  | _ => none

def FieldTerm.warning? : FieldTerm → Option Text
  | refused w => some w
  | _ => none

/-! ## Whole requests -/

namespace Request

def conditions (r : Request) : List Condition :=
  r.pathTerms.filterMap pathCondition? ++ r.texts.filterMap textCondition?
    ++ (r.fields.map fieldTerm).filterMap FieldTerm.condition? ++ r.tags.filterMap tagCondition?

def warnings (r : Request) : List Text := (r.fields.map fieldTerm).filterMap FieldTerm.warning?

def query (r : Request) : Text := queryText r.conditions

/-! ## Summary -/

def labelWidth : Nat := 32

def summaryLine (label : String) (value : Text) : Text :=
  Text.padded labelWidth label.toList ++ '"' :: value ++ ['"']

def pathLine : Text → Text
  | [] => summaryLine "--- PATH containing words:" []
  | c :: rest =>
    if c = rootMark then summaryLine "--- PATH beginning with words:" rest
    else summaryLine "--- PATH containing words:" (c :: rest)

def termLines (r : Request) : List Text :=
  r.pathTerms.map pathLine ++ r.texts.map (summaryLine "--- TEXT containing:")
    ++ r.tags.map (summaryLine "--- TAG word:") ++ r.fields.map (summaryLine "--- FIELD:")

/-- A request in words; empty if nothing is sought. -/
def summary (r : Request) : Text :=
  match r.savedQuery with
  | some name => "SAVED QUERY: ".toList ++ name
  | none =>
    if r.termLines = [] then []
    else Text.joined ['\n'] ("SEARCHING FOR NOTES WITH:".toList :: r.termLines)

end Request

end Notebook
