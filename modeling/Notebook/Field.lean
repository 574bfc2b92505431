import Notebook.Number.Decimal
import Notebook.Number.Numeral

/-! # Field values -/

namespace Notebook

/-- A value is a number or a text from the moment it is read. -/
inductive FieldValue where
  | number (x : Double)
  | text (t : Text)
  deriving DecidableEq, Repr

namespace FieldValue

/-- A finite numeral is a number, and anything else is the trimmed text. -/
def read (literal : Text) : FieldValue :=
  match readNumber? literal.trim with
  | some x => number x
  | none => text literal.trim

def written : FieldValue → Text
  | number x => x.plain
  | text t => t

def isNumber : FieldValue → Bool
  | number _ => true
  | text _ => false

/-- Equality of values: of numbers as numbers, of texts character by character. -/
def same : FieldValue → FieldValue → Bool
  | number x, number y => x.same y
  | text s, text t => s = t
  | _, _ => false

end FieldValue

abbrev Field := Text × FieldValue

def Field.same (f g : Field) : Bool := f.1 = g.1 && f.2.same g.2

def sameFields : List Field → List Field → Bool
  | [], [] => true
  | f :: fs, g :: gs => f.same g && sameFields fs gs
  | _, _ => false

end Notebook
