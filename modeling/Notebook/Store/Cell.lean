import Notebook.Field
import Notebook.Number.Extended
import Notebook.Query.Condition
import Notebook.Text.Order
import Notebook.Text.Utf8

/-! # Cells

What a row of the store holds in a column.
-/

namespace Notebook

inductive Cell where
  | null
  | integer (n : Int)
  | real (x : Double)
  | text (t : Text)
  | blob (bytes : List UInt8)
  deriving DecidableEq, Repr

namespace Cell

/-! ## Order -/

/-- Kinds of cell in the order of their values: nothing, numbers, texts, blobs. -/
def kind : Cell → Nat
  | null => 0
  | integer _ | real _ => 1
  | text _ => 2
  | blob _ => 3

def compareTexts (s t : Text) : Ordering := if s = t then .eq else if s.before t then .lt else .gt

def compareBytes : List UInt8 → List UInt8 → Ordering
  | [], [] => .eq
  | [], _ :: _ => .lt
  | _ :: _, [] => .gt
  | a :: s, b :: t => if a = b then compareBytes s t else if a < b then .lt else .gt

/-- Numbers are compared exactly; a real is never a NaN. -/
def order : Cell → Cell → Ordering
  | integer m, integer n => compare m n
  | integer m, real y => (Double.compareInt? m y).getD .eq
  | real x, integer n => ((Double.compareInt? n x).map Ordering.swap).getD .eq
  | real x, real y => (x.compare? y).getD .eq
  | text s, text t => compareTexts s t
  | blob a, blob b => compareBytes a b
  | a, b => compare a.kind b.kind

/-- Cells that count as one in an intersection. -/
def same (a b : Cell) : Bool := a.order b = .eq

def meets (op : Comparison) (a b : Cell) : Bool := a ≠ null && b ≠ null && op.holds (a.order b)

/-! ## Storing values -/

/-- A number as it is stored; a NaN leaves nothing. -/
def ofNumber (x : Double) : Cell := if x = .nan then null else real x

def ofValue : FieldValue → Cell
  | .number x => ofNumber x
  | .text t => text t

/-- The field value in a cell; a cell without one marks a tag. A NaN counts as nothing. -/
def value? : Cell → Option FieldValue
  | null => none
  | integer n => some (.number (Double.ofInt n))
  | real x => if x = .nan then none else some (.number x)
  | text t => some (.text t)
  | blob bytes => some (.text (Utf8.decodeLossy bytes))

def intText (n : Int) : Text := if n < 0 then '-' :: Nat.toDigits 10 n.natAbs else Nat.toDigits 10 n.natAbs

/-- The text against which a search expression is tried. -/
def searched? : Cell → Option Text
  | null | blob _ => none
  | integer n => some (intText n)
  | real x => some x.plain
  | text t => some t

/-! ## Numerals of queries -/

def leastInteger : Int := -(Nat.pow 2 63 : Nat)
def greatestInteger : Int := (Nat.pow 2 63 : Nat) - 1

/-- A numeral is an integer if it is written as one and is not too great, and otherwise a real. -/
def ofNumeral (n : Numeral) : Cell :=
  if n.isInteger && leastInteger ≤ n.toInt && n.toInt ≤ greatestInteger then integer n.toInt
  else ofNumber n.stored

def ofOperand : Operand → Cell
  | .text t => text t
  | .numeral t =>
    match Numeral.scan? t with
    | some (n, []) => ofNumeral n
    | _ => null

/-! ## Typed columns -/

/-- Numbers in a column of texts: 15 digits, always with a point, and an exponent for numbers below
10^-4 or from 10^15 on. -/
def columnStyle : NumberStyle := ⟨fun e => -4 ≤ e && e < 15, true, true, 2, .up⟩

def realText : Double → Text
  | .finite negative rank =>
    let (digits, power) := if rank.val = 0 then (['0'], 0) else significant 15 rank
    (if negative && rank.val ≠ 0 then ['-'] else []) ++ columnStyle.layOut digits power
  | .infinite negative => (if negative then "-Inf" else "Inf").toList
  | .nan => []

def inTextColumn : Cell → Cell
  | integer n => text (intText n)
  | real x => text (realText x)
  | c => c

def wholeNumber? : Double → Option Int
  | .finite negative rank =>
    if units rank % one = 0 then
      let n : Int := (units rank / one : Nat)
      some (if negative then -n else n)
    else none
  | _ => none

/-- A real that is an integer is stored as one in a column of integers, unless it is the least one. -/
def ofWhole (x : Double) : Cell :=
  match wholeNumber? x with
  | some n => if leastInteger < n && n ≤ greatestInteger then integer n else real x
  | none => real x

def isAsciiBlank (c : Char) : Bool := c = ' ' || ('\t' ≤ c && c ≤ '\r')

/-- What a column of integers makes of a cell: numerals in texts count as numbers. -/
def inIntegerColumn : Cell → Cell
  | real x => ofWhole x
  | text t =>
    match Numeral.scan? (Text.stripped isAsciiBlank t) with
    | some (n, []) =>
      match ofNumeral n with
      | real x => ofWhole x
      | c => c
    | _ => text t
  | c => c

end Cell

end Notebook
