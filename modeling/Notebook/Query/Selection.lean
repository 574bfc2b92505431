import Notebook.Number.Numeral
import Notebook.Query.Condition

/-! # Reading queries

A query is cut into tokens and read as selections from the tables, each with at most one condition,
whose results are intersected.
-/

namespace Notebook

/-! ## Tokens -/

inductive QueryToken where
  | word (t : Text)
  | literal (t : Text)
  | numeral (written : Text)
  | symbol (t : Text)
  deriving DecidableEq, Repr

def isQueryBlank (c : Char) : Bool :=
  c = ' ' || c = '\t' || c = '\n' || c = '\r' || c = '\x0c'

def isNameChar (c : Char) : Bool := c.isAlphanum || c = '_'

/-- The numeral at the start of a text as it is written. A name may not follow right behind it. -/
def readNumeral? (t : Text) : Option (Text × Text) :=
  match Numeral.scan? t with
  | none => none
  | some (_, rest) =>
    if rest.head?.any isNameChar then none else some (t.take (t.length - rest.length), rest)

/-- The first token of a text that starts with no blank, and the rest. -/
def readToken? : Text → Option (QueryToken × Text)
  | [] => none
  | c :: rest =>
    if c = quoteMark then (readLiteral? rest).map fun (t, rest) => (.literal t, rest)
    else if isOperatorChar c then
      some (.symbol ((c :: rest).takeWhile isOperatorChar), (c :: rest).dropWhile isOperatorChar)
    else if c.isAlpha || c = '_' then
      some (.word ((c :: rest).takeWhile isNameChar), (c :: rest).dropWhile isNameChar)
    else (readNumeral? (c :: rest)).map fun (t, rest) => (.numeral t, rest)

/-- At most `most` tokens of a text, if it consists of no more. -/
def queryTokensWithin? : (most : Nat) → Text → Option (List QueryToken)
  | 0, t => if t.all isQueryBlank then some [] else none
  | most + 1, t =>
    let start := t.dropWhile isQueryBlank
    if start = [] then some []
    else match readToken? start with
      | none => none
      | some (token, rest) => (queryTokensWithin? most rest).map (token :: ·)

def queryTokens? (t : Text) : Option (List QueryToken) := queryTokensWithin? t.length t

/-! ## Conditions -/

/-- Words of the language are read in any case. -/
def isWord (w : String) (t : Text) : Bool := t.map Char.toLower = w.toList

def readCondition? : List QueryToken → Option (Condition × List QueryToken)
  | .word column :: .word operator :: .literal pattern :: rest =>
    if isWord "regexp" operator then
      if isWord "path" column then some (.path pattern, rest)
      else if isWord "text" column then some (.text pattern, rest)
      else none
    else none
  | .word column :: .symbol ['='] :: .literal name :: .word conj :: .word value :: rest =>
    if isWord "name" column && isWord "and" conj && isWord "value" value then
      match rest with
      | .word a :: .word b :: rest =>
        if isWord "is" a && isWord "null" b then some (.tag name, rest) else none
      | .word operator :: .literal pattern :: rest =>
        if isWord "regexp" operator then some (.matching name pattern, rest) else none
      | .symbol s :: .literal t :: rest =>
        (Comparison.ofSymbol? s).map fun op => (.compare name op (.text t), rest)
      | .symbol s :: .numeral t :: rest =>
        (Comparison.ofSymbol? s).map fun op => (.compare name op (.numeral t), rest)
      | _ => none
    else none
  | _ => none

/-! ## Selections -/

inductive Column where
  | id
  | path
  | text
  | name
  | value
  deriving DecidableEq, Repr

structure Selection where
  column : Column
  table : Table
  condition : Option Condition
  deriving DecidableEq, Repr

def Column.named? (t : Text) : Option Column :=
  if isWord "id" t then some id
  else if isWord "path" t then some path
  else if isWord "text" t then some text
  else if isWord "name" t then some name
  else if isWord "value" t then some value
  else none

def Table.named? (t : Text) : Option Table :=
  if isWord "records" t then some records else if isWord "tags" t then some tags else none

def Column.isIn : Column → Table → Bool
  | id, _ => true
  | path, table | text, table => table = .records
  | name, table | value, table => table = .tags

def readSelection? : List QueryToken → Option (Selection × List QueryToken)
  | .word a :: .word c :: .word b :: .word t :: rest =>
    match Column.named? c, Table.named? t with
    | some column, some table =>
      if !isWord "select" a || !isWord "from" b || !column.isIn table then none
      else match rest with
        | .word w :: rest =>
          if isWord "where" w then
            match readCondition? rest with
            | some (condition, rest) =>
              if condition.table = table then some (⟨column, table, some condition⟩, rest) else none
            | none => none
          else some (⟨column, table, none⟩, .word w :: rest)
        | rest => some (⟨column, table, none⟩, rest)
    | _, _ => none
  | _ => none

def readSelections? (tokens : List QueryToken) : Option (List Selection) :=
  match readSelection? tokens with
  | none => none
  | some (s, []) => some [s]
  | some (s, .word w :: rest) =>
    if _ : rest.length < tokens.length then
      if isWord "intersect" w then (readSelections? rest).map (s :: ·) else none
    else none
  | some _ => none
  termination_by tokens.length

/-- The selections of a text in the language of queries, however many they are. A text without tokens has none. -/
def readStatement? (t : Text) : Option (List Selection) :=
  if '\x00' ∈ t then none
  else (queryTokens? t).bind fun tokens => if tokens = [] then some [] else readSelections? tokens

def greatestSelections : Nat := 500

/-- The selections of a query; there is at least one. A text with a NUL is no query. -/
def readQuery? (t : Text) : Option (List Selection) :=
  if '\x00' ∈ t then none
  else ((queryTokens? t).bind readSelections?).filter fun selections =>
    selections.length ≤ greatestSelections

end Notebook
