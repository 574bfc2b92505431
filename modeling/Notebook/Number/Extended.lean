import Notebook.Number.Numeral

/-! # Extended precision

The store has a way of its own to read and write numerals: it multiplies by powers of ten until the
point is where it should be, and every product is rounded to 64 significant bits. The result is mostly
the nearest number, but not always.
-/

namespace Notebook

/-- The number `significand · 2 ^ power`. -/
structure Extended where
  significand : Nat
  power : Int
  deriving DecidableEq, Repr

namespace Extended

/-! ## Rounding -/

/-- The number of 64 significant bits nearest to `num / den · 2 ^ power`. -/
def nearest (num den : Nat) (power : Int) : Extended :=
  let shift := 64 + den.log2
  let scaled := num * Nat.pow 2 shift
  let excess := (scaled / den).log2 - 63
  ⟨roundDiv .toEven scaled (den * Nat.pow 2 excess), power + excess - shift⟩

def mul (x y : Extended) : Extended := nearest (x.significand * y.significand) 1 (x.power + y.power)

def powerOfTen (k : Int) : Extended :=
  if 0 ≤ k then nearest (Nat.pow 10 k.toNat) 1 0 else nearest 1 (Nat.pow 10 (-k).toNat) 0

def less (x y : Extended) : Bool :=
  if x.power ≤ y.power then x.significand < y.significand * Nat.pow 2 (y.power - x.power).toNat
  else x.significand * Nat.pow 2 (x.power - y.power).toNat < y.significand

def floor (x : Extended) : Nat :=
  if 0 ≤ x.power then x.significand * Nat.pow 2 x.power.toNat
  else x.significand / Nat.pow 2 (-x.power).toNat

/-! ## Doubles -/

def ofRank (rank : Nat) : Extended := ⟨units rank, -1074⟩

def greatest : Extended := ⟨Nat.pow 2 53 - 1, 971⟩

/-- The nearest double; all that is greater than the greatest one is infinite. -/
def toDouble (negative : Bool) (x : Extended) : Double :=
  if greatest.less x then .infinite negative
  else if 0 ≤ x.power then .ofRatio negative (x.significand * Nat.pow 2 x.power.toNat) 1
  else .ofRatio negative x.significand (Nat.pow 2 (-x.power).toNat)

/-! ## Reading -/

def mulTimes (factor : Extended) : Nat → Extended → Extended
  | 0, x => x
  | n + 1, x => mulTimes factor n (x.mul factor)

/-- Multiplies by a power of ten, first in steps of hundred digits, then of ten, then of one. -/
def shifted (x : Extended) (power : Int) : Extended :=
  let steps := power.natAbs
  let step (k : Nat) : Extended := powerOfTen (if power < 0 then -k else k)
  mulTimes (step 1) (steps % 10) (mulTimes (step 10) (steps % 100 / 10) (mulTimes (step 100) (steps / 100) x))

/-- The number that the first digits write, which has at most 64 bits, and how many digits are left. -/
def leading (number : Nat) : Text → Nat × Nat
  | [] => (number, 0)
  | c :: rest =>
    if number < (Nat.pow 2 64 - 10) / 10 then leading (10 * number + digitValue c) rest
    else (number, rest.length + 1)

/-- Takes as much of a positive power of ten into a number as 64 bits hold. -/
def grown : Nat → Nat → Nat × Nat
  | number, 0 => (number, 0)
  | number, power + 1 =>
    if number < (Nat.pow 2 64 - 1) / 10 then grown (10 * number) power else (number, power + 1)

def reduced : Nat → Nat → Nat × Nat
  | number, 0 => (number, 0)
  | number, power + 1 => if number % 10 = 0 then reduced (number / 10) power else (number, power + 1)

end Extended

/-- The double that the store makes of a numeral. Powers so great or small that only an infinity or a
zero can come out are not computed. -/
def Numeral.stored (n : Numeral) : Double :=
  let digits := n.whole ++ n.fraction.getD []
  let (number, left) := Extended.leading 0 digits
  let power := n.power + left
  if number = 0 then .ofRank n.negative 0
  else if 400 < power then .infinite n.negative
  else if power + digits.length < -400 then .ofRank n.negative 0
  else if 0 ≤ power then
    let (number, power) := Extended.grown number power.toNat
    ((Extended.mk number 0).shifted power).toDouble n.negative
  else
    let (number, power) := Extended.reduced number (-power).toNat
    ((Extended.mk number 0).shifted (-power)).toDouble n.negative

/-! ## Writing -/

namespace Extended

/-- Multiplies as long as a test holds, at most so many times; also how many times it was. -/
def mulWhile (test : Extended → Bool) (factor : Extended) : Nat → Extended → Extended × Nat
  | 0, x => (x, 0)
  | n + 1, x =>
    if test x then
      let (y, count) := mulWhile test factor n (x.mul factor)
      (y, count + 1)
    else (x, 0)

/-- A whole number of 18 or 19 digits and the power of ten of its last digit. Steps of hundred digits
bring a number near, then steps of ten, then of one; no double needs more than ten of a kind. -/
def wholeDigits (x : Extended) : Nat × Int :=
  let climb (limit : Int) (step : Nat) := mulWhile (·.less (powerOfTen limit)) (powerOfTen step) 10
  let descend (limit : Int) (step : Nat) := mulWhile (!·.less (powerOfTen limit)) (powerOfTen (-step)) 10
  if x.less (powerOfTen 19) then
    let (x, hundreds) := climb (-97) 100 x
    let (x, tens) := climb 7 10 x
    let (x, ones) := climb 17 1 x
    (x.floor, -(100 * hundreds + 10 * tens + ones : Nat))
  else
    let (x, hundreds) := descend 119 100 x
    let (x, tens) := descend 29 10 x
    let (x, ones) := descend 19 1 x
    (x.floor, (100 * hundreds + 10 * tens + ones : Nat))

end Extended

def dropTrailingZeros (digits : Text) : Text := (digits.reverse.dropWhile (· = '0')).reverse

/-- At most `count` digits of a magnitude, without zeros at the end, and the power of ten of the last
one. -/
def significant (count rank : Nat) : Text × Int :=
  let (number, power) := (Extended.ofRank rank).wholeDigits
  let extra := (Nat.toDigits 10 number).length - count
  let rounded := Nat.toDigits 10 (roundDiv .up number (Nat.pow 10 extra))
  let kept := dropTrailingZeros rounded
  (kept, power + extra + (rounded.length - kept.length : Nat))

end Notebook
