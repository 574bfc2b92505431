import Notebook.Text.Basic

/-! # Literals of the query language

A literal stands between single quotes, and a quote inside it is written twice.
-/

namespace Notebook

def quoteMark : Char := '\x27'

/-! ## Writing and reading -/

def doubledChar (c : Char) : Text := if c = quoteMark then [quoteMark, quoteMark] else [c]

def literalOf (t : Text) : Text := quoteMark :: t.flatMap doubledChar ++ [quoteMark]

/-- Reads a literal whose opening quote is gone: the text that it denotes, and the rest. -/
def readLiteral? : Text → Option (Text × Text)
  | [] => none
  | c :: rest =>
    if c = quoteMark then
      match rest with
      | [] => some ([], [])
      | d :: after =>
        if d = quoteMark then (readLiteral? after).map fun (t, rest) => (quoteMark :: t, rest)
        else some ([], d :: after)
    else (readLiteral? rest).map fun (t, rest) => (c :: t, rest)

/-! ## Texts as given by the user -/

/-- Whether a text comes in quotes, as if it were a literal already. -/
def isWrapped (t : Text) : Bool :=
  2 ≤ t.length && t.head? = some quoteMark && t.getLast? = some quoteMark

/-- Reads the inside of a literal leniently: two quotes stand for one, and so does a quote alone. -/
def halved : Text → Text
  | [] => []
  | [c] => [c]
  | c :: d :: rest =>
    if c = quoteMark && d = quoteMark then quoteMark :: halved rest else c :: halved (d :: rest)

def meant (t : Text) : Text := if isWrapped t then halved (t.drop 1).dropLast else t

/-- The literal for a text as given by the user. Text in quotes is taken as a literal, in which a run of
an odd number of quotes gets one more. -/
def escapeLiteral (t : Text) : Text := literalOf (meant t)

end Notebook
