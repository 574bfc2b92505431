import Notebook.Note
import Notebook.Text.Quoted

/-! # Notes as JSON -/

namespace Notebook

inductive Json where
  | number (x : Double)
  | text (t : Text)
  | array (items : List Json)
  | object (members : List (Text × Json))

namespace Json

/-! ## Scalars -/

/-- Numbers always have a point or an exponent, and numbers from 10^-5 up to 10^16 have no exponent. Of
two forms the one with an even last digit is chosen. -/
def numberStyle : NumberStyle := ⟨fun e => -5 ≤ e && e ≤ 15, true, false, 1, .toEven⟩

/-- What is no finite number is null. -/
def numberText : Double → Text
  | .finite negative rank => numberStyle.write negative rank
  | _ => "null".toList

def escapedChar (c : Char) : Text :=
  if c = '"' || c = '\\' then ['\\', c]
  else if c = '\n' then ['\\', 'n']
  else if c = '\r' then ['\\', 'r']
  else if c = '\t' then ['\\', 't']
  else if c = '\x08' then ['\\', 'b']
  else if c = '\x0c' then ['\\', 'f']
  else if c.toNat < 0x20 then
    ['\\', 'u', '0', '0'] ++ List.replicate (2 - (hexDigits c.toNat).length) '0' ++ hexDigits c.toNat
  else [c]

def stringText (t : Text) : Text := '"' :: t.flatMap escapedChar ++ ['"']

/-! ## Layouts -/

mutual

def compact : Json → Text
  | number x => numberText x
  | text t => stringText t
  | array items => '[' :: Text.joined [','] (compactItems items) ++ [']']
  | object members => '\x7b' :: Text.joined [','] (compactMembers members) ++ ['\x7d']

def compactItems : List Json → List Text
  | [] => []
  | item :: rest => item.compact :: compactItems rest

def compactMembers : List (Text × Json) → List Text
  | [] => []
  | (name, value) :: rest => (stringText name ++ ':' :: value.compact) :: compactMembers rest

end

/-- Items between brackets, each on a line of its own; without items the brackets stand together. -/
def bracketed (left right : Char) (depth : Nat) (items : List Text) : Text :=
  if items = [] then [left, right]
  else
    let newline (depth : Nat) : Text := '\n' :: List.replicate (2 * depth) ' '
    left :: newline (depth + 1) ++ Text.joined (',' :: newline (depth + 1)) items ++ newline depth ++ [right]

mutual

/-- Over many lines, two columns further in at each depth. -/
def indented (depth : Nat) : Json → Text
  | number x => numberText x
  | text t => stringText t
  | array items => bracketed '[' ']' depth (indentedItems depth items)
  | object members => bracketed '\x7b' '\x7d' depth (indentedMembers depth members)

def indentedItems (depth : Nat) : List Json → List Text
  | [] => []
  | item :: rest => item.indented (depth + 1) :: indentedItems depth rest

def indentedMembers (depth : Nat) : List (Text × Json) → List Text
  | [] => []
  | (name, value) :: rest =>
    (stringText name ++ ": ".toList ++ value.indented (depth + 1)) :: indentedMembers depth rest

end

end Json

/-! ## Notes -/

def FieldValue.toJson : FieldValue → Json
  | number x => .number x
  | text t => .text t

def Note.toJson (n : Note) : Json :=
  .object [("path".toList, .text n.path), ("lines".toList, .array (n.lines.map .text)),
    ("tags".toList, .array (n.tags.map .text)),
    ("fields".toList, .array (n.fields.map fun f => .array [.text f.1, f.2.toJson])),
    ("directive".toList, .text n.directive.written)]

end Notebook
