import Notebook.Note

/-! # Header lines

A line that starts with exactly one backslash belongs to the header of a note. After the path, which
comes first, a header line holds a field, a directive or some tags, and a divider holds nothing.
-/

namespace Notebook

/-! ## Kinds of line -/

inductive PageLine where
  | text (line : Text)
  | header (content : Text)
  deriving DecidableEq, Repr

/-- Two backslashes or more begin a line of text. -/
def PageLine.read : Text → PageLine
  | [] => text []
  | '\\' :: '\\' :: rest => text ('\\' :: '\\' :: rest)
  | '\\' :: rest => header (Text.trim rest)
  | c :: rest => text (c :: rest)

def isHeaderLine (line : Text) : Bool :=
  match PageLine.read line with
  | .header _ => true
  | .text _ => false

/-! ## Dividers -/

def dividerLength : Nat := 8

/-- Eight or more repeats of one character that is no letter or digit. -/
def isDivider : Text → Bool
  | [] => false
  | c :: rest => !isAlphanumeric c && rest.all (· = c) && dividerLength ≤ rest.length + 1

/-! ## Contents -/

inductive HeaderItem where
  | field (f : Field)
  | directive (d : Directive)
  | tags (ts : List Text)
  deriving DecidableEq, Repr

namespace HeaderItem

def isTagSeparator (c : Char) : Bool := c = ',' || c = ';'

/-- An equals sign makes a field, and otherwise an at sign in front a directive. -/
def read (content : Text) : HeaderItem :=
  match content.cutAt? (· = '=') with
  | some (name, value) => field (name.trim, FieldValue.read value)
  | none =>
    match content with
    | '@' :: rest => directive (Directive.read (Text.trimStart rest))
    | _ => tags (content.pieces isTagSeparator)

def addTo (n : Note) : HeaderItem → Note
  | field f => n.addField f
  | directive d => { n with directive := d }
  | tags ts => ts.foldl Note.addTag n

end HeaderItem

end Notebook
