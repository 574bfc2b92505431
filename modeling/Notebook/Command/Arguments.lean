import Notebook.Query.Request

/-! # Arguments of the command

Options have a short and a long name. Some take values: one, or all arguments up to the next option.
An option is settled when the next one is recognised or the arguments end, and only then its values
are looked at.
-/

namespace Notebook

/-! ## Options -/

inductive Choice where
  | database
  | pathsOnly
  | json
  | root
  | path
  | text
  | tag
  | field
  | nameQuery
  | query
  | listQueries
  | removeQuery
  | saveNotes
  | help
  | version
  deriving DecidableEq, Repr

inductive Arity where
  | flag
  | single
  | several
  deriving DecidableEq, Repr

namespace Choice

def all : List Choice :=
  [database, pathsOnly, json, root, path, text, tag, field, nameQuery, query, listQueries, removeQuery,
    saveNotes, help, version]

def short : Choice → Char
  | database => 'd'
  | pathsOnly => 'P'
  | json => 'J'
  | root => 'r'
  | path => 'p'
  | text => 't'
  | tag => 'g'
  | field => 'f'
  | nameQuery => 'n'
  | query => 'q'
  | listQueries => 'l'
  | removeQuery => 'x'
  | saveNotes => 's'
  | help => 'h'
  | version => 'V'

def long : Choice → String
  | database => "database"
  | pathsOnly => "paths-only"
  | json => "json"
  | root => "root"
  | path => "path"
  | text => "text"
  | tag => "tag"
  | field => "field"
  | nameQuery => "name-query"
  | query => "query"
  | listQueries => "list-queries"
  | removeQuery => "remove-query"
  | saveNotes => "save-notes"
  | help => "help"
  | version => "version"

def arity : Choice → Arity
  | root | nameQuery | query | removeQuery => .single
  | path | text | tag | field | saveNotes => .several
  | _ => .flag

def ofShort? (c : Char) : Option Choice := all.find? (·.short = c)

def ofLong? (t : Text) : Option Choice := all.find? (·.long.toList = t)

end Choice

/-! ## Settling options -/

/-- Why the arguments are not carried out. -/
inductive Refusal where
  | unknownArgument
  | missingValue
  /-- Given twice, but allowed once. -/
  | repeatedOption
  | unwantedValue
  | help
  | version
  deriving DecidableEq, Repr

/-- Options settled so far, in order, and the one that may still get values. -/
structure ArgumentState where
  settled : List (Choice × List Text)
  pending : Option (Choice × List Text)
  deriving DecidableEq, Repr

namespace ArgumentState

def start : ArgumentState := ⟨[], none⟩

def add (st : ArgumentState) (c : Choice) (values : List Text) : Except Refusal ArgumentState :=
  if c.arity ≠ .flag && values = [] then .error .missingValue
  else if c = .help then .error .help
  else if c = .version then .error .version
  else if c.arity ≠ .several && st.settled.any (·.1 = c) then .error .repeatedOption
  else if c = .saveNotes && [] ∈ values then .error .missingValue
  else .ok { st with settled := st.settled ++ [(c, values)] }

def settle (st : ArgumentState) : Except Refusal ArgumentState :=
  match st.pending with
  | none => .ok st
  | some (c, values) => add { st with pending := none } c values

def complete (st : ArgumentState) (c : Choice) (values : List Text) : Except Refusal ArgumentState := do
  (← st.settle).add c values

def await (st : ArgumentState) (c : Choice) : Except Refusal ArgumentState := do
  return { ← st.settle with pending := some (c, []) }

/-- An argument that is no option: a value of the option that waits, if that can have more. -/
def takeValue (st : ArgumentState) (t : Text) : Except Refusal ArgumentState :=
  match st.pending with
  | some (c, values) =>
    if c.arity = .several || values = [] then .ok { st with pending := some (c, values ++ [t]) }
    else .error .unknownArgument
  | none => .error .unknownArgument

def takeLong (st : ArgumentState) (name : Text) (value : Option Text) : Except Refusal ArgumentState :=
  match Choice.ofLong? name, value with
  | none, _ => .error .unknownArgument
  | some c, none => if c.arity = .flag then st.complete c [] else st.await c
  | some c, some v => if c.arity = .flag then .error .unwantedValue else st.complete c [v]

/-- Short options run together. The first that takes a value takes the rest as its value, of which an
equals sign in front is no part. -/
def takeShort (st : ArgumentState) : Text → Except Refusal ArgumentState
  | [] => .ok st
  | c :: rest =>
    match Choice.ofShort? c with
    | none => .error .unknownArgument
    | some choice =>
      if choice.arity = .flag then do (← st.complete choice []).takeShort rest
      else match rest with
        | [] => st.await choice
        | '=' :: value => st.complete choice [value]
        | value => st.complete choice [value]

def takeAll (st : ArgumentState) : List Text → Except Refusal ArgumentState
  | [] => st.settle
  | ['-', '-'] :: rest => if rest = [] then st.settle else .error .unknownArgument
  | ('-' :: '-' :: long) :: rest => do
    let next ← match Text.cutAt? (· = '=') long with
      | some (name, value) => st.takeLong name (some value)
      | none => st.takeLong long none
    next.takeAll rest
  | ('-' :: c :: shorts) :: rest => do (← st.takeShort (c :: shorts)).takeAll rest
  | t :: rest => do (← st.takeValue t).takeAll rest

def values (st : ArgumentState) (c : Choice) : List Text :=
  (st.settled.filter (·.1 = c)).flatMap (·.2)

def isGiven (st : ArgumentState) (c : Choice) : Bool := st.settled.any (·.1 = c)

end ArgumentState

/-! ## Arguments -/

structure Arguments where
  /-- Tell about the store and the files in place of a search. -/
  database : Bool
  pathsOnly : Bool
  json : Bool
  listQueries : Bool
  removeQuery : Option Text
  saveFiles : List Text
  request : Request
  deriving DecidableEq, Repr

def Arguments.read (args : List Text) : Except Refusal Arguments := do
  let st ← ArgumentState.start.takeAll args
  return {
    database := st.isGiven .database
    pathsOnly := st.isGiven .pathsOnly
    json := st.isGiven .json
    listQueries := st.isGiven .listQueries
    removeQuery := (st.values .removeQuery).head?
    saveFiles := st.values .saveNotes
    request := {
      paths := st.values .path
      texts := st.values .text
      tags := st.values .tag
      fields := st.values .field
      root := (st.values .root).head?
      savedQuery := (st.values .query).head?
      saveAs := (st.values .nameQuery).head? } }

end Notebook
