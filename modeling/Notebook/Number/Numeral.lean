import Notebook.Number.Double
import Notebook.Text.Basic

/-! # Numerals

A numeral is an optional sign, digits that may have a decimal point among or around them, and an
optional exponent of ten. Its value is the nearest double.
-/

namespace Notebook

/-! ## Digits -/

def digitValue (c : Char) : Nat := c.toNat - '0'.toNat

def digitsValue (t : Text) : Nat := t.foldl (fun n c => 10 * n + digitValue c) 0

def hexDigit? (c : Char) : Option Nat :=
  if c.isDigit then some (digitValue c)
  else if 'a' ≤ c.toLower && c.toLower ≤ 'f' then some (c.toLower.toNat - 'a'.toNat + 10)
  else none

def hexValue? (digits : Text) : Option Nat :=
  if digits = [] then none
  else digits.foldl (fun n c => n.bind fun n => (hexDigit? c).map (16 * n + ·)) (some 0)

def spanDigits (t : Text) : Text × Text := (t.takeWhile Char.isDigit, t.dropWhile Char.isDigit)

def splitSign : Text → Bool × Text
  | '-' :: rest => (true, rest)
  | '+' :: rest => (false, rest)
  | rest => (false, rest)

/-! ## Numerals -/

structure Numeral where
  negative : Bool
  whole : Text
  fraction : Option Text
  exponent : Option Int
  deriving DecidableEq, Repr

namespace Numeral

def isInteger (n : Numeral) : Bool := n.fraction.isNone && n.exponent.isNone

def coefficient (n : Numeral) : Nat := digitsValue (n.whole ++ n.fraction.getD [])

def power (n : Numeral) : Int := n.exponent.getD 0 - (n.fraction.getD []).length

def toInt (n : Numeral) : Int :=
  if n.negative then -(n.coefficient : Int) else n.coefficient

/-- A fraction part at the start of a text: a point and any digits after it. -/
def spanFraction : Text → Option Text × Text
  | '.' :: rest => (some (spanDigits rest).1, (spanDigits rest).2)
  | rest => (none, rest)

/-- An exponent part at the start of a text, which needs at least one digit. -/
def spanExponent : Text → Option Int × Text
  | [] => (none, [])
  | c :: rest =>
    if c = 'e' || c = 'E' then
      let (negative, afterSign) := splitSign rest
      let (digits, afterDigits) := spanDigits afterSign
      if digits = [] then (none, c :: rest)
      else (some (if negative then -(digitsValue digits : Int) else digitsValue digits), afterDigits)
    else (none, c :: rest)

/-- The longest numeral at the start of a text, and the rest. -/
def scan? (t : Text) : Option (Numeral × Text) :=
  let (negative, unsigned) := splitSign t
  let (whole, afterWhole) := spanDigits unsigned
  let (fraction, afterFraction) := spanFraction afterWhole
  if whole = [] && fraction.getD [] = [] then none
  else
    let (exponent, rest) := spanExponent afterFraction
    some (⟨negative, whole, fraction, exponent⟩, rest)

end Numeral

/-! ## Values -/

/-- The double nearest to `coefficient · 10 ^ power`. Powers so great or small that only an infinity or
a zero can come out are not computed. -/
def Double.ofDecimal (negative : Bool) (coefficient : Nat) (power : Int) : Double :=
  if coefficient = 0 then ofRank negative 0
  else if 400 < power then infinite negative
  else if power + (Nat.toDigits 10 coefficient).length < -400 then ofRank negative 0
  else if 0 ≤ power then ofRatio negative (coefficient * Nat.pow 10 power.toNat) 1
  else ofRatio negative coefficient (Nat.pow 10 (-power).toNat)

def Numeral.value (n : Numeral) : Double := Double.ofDecimal n.negative n.coefficient n.power

def namedNumber? (t : Text) : Option Double :=
  let (negative, name) := splitSign t
  let word := name.map Char.toLower
  if word = "inf".toList || word = "infinity".toList then some (.infinite negative)
  else if word = "nan".toList then some .nan
  else none

def Double.ofText? (t : Text) : Option Double :=
  match Numeral.scan? t with
  | some (n, []) => some n.value
  | _ => namedNumber? t

/-- A whole text as a finite number: infinities, NaNs and numerals that overflow are no numbers. -/
def readNumber? (t : Text) : Option Double := (Double.ofText? t).filter Double.isFinite

end Notebook
