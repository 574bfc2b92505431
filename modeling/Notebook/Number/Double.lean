/-! # Double-precision numbers

A finite double is its sign and the rank of its magnitude among all finite magnitudes, smallest
first. Every magnitude is a whole number of units of 2^-1074, so all questions about doubles are
questions about natural numbers, and none is answered approximately.
-/

namespace Notebook

/-! ## Rounded quotients -/

/-- What becomes of a quotient that lies halfway between two whole numbers. -/
inductive Tie where
  | toEven
  | up
  deriving DecidableEq, Repr

def roundDiv (tie : Tie) (num den : Nat) : Nat :=
  let quotient := num / den
  let rest := num % den
  if 2 * rest < den then quotient
  else if den < 2 * rest then quotient + 1
  else match tie with
    | .toEven => quotient + quotient % 2
    | .up => quotient + 1

/-! ## Magnitudes -/

/-- How many finite magnitudes there are: 2047 · 2^52. -/
abbrev rankCount : Nat := 9218868437227405312

/-- Units of 2^-1074 in one. -/
def one : Nat := Nat.pow 2 1074

/-- The magnitude of a rank, in units of 2^-1074. The first 2^53 magnitudes lie one unit apart, the
next 2^52 two units, the next 2^52 four, and so on. -/
def units (rank : Nat) : Nat :=
  let shift := rank / Nat.pow 2 52 - 1
  (rank - shift * Nat.pow 2 52) * Nat.pow 2 shift

/-- The rank whose magnitude is nearest to `num / den` units, the even one of two that are equally
near. It may be beyond the finite ones. -/
def nearestRank (num den : Nat) : Nat :=
  let shift := (num / den).log2 - 52
  shift * Nat.pow 2 52 + roundDiv .toEven num (den * Nat.pow 2 shift)

/-! ## Doubles -/

inductive Double where
  | finite (negative : Bool) (rank : Fin rankCount)
  | infinite (negative : Bool)
  | nan
  deriving DecidableEq, Repr

namespace Double

instance : Inhabited Double := ⟨nan⟩

def isFinite : Double → Bool
  | finite _ _ => true
  | _ => false

def ofRank (negative : Bool) (rank : Nat) : Double :=
  if h : rank < rankCount then finite negative ⟨rank, h⟩ else infinite negative

def ofRatio (negative : Bool) (num den : Nat) : Double :=
  ofRank negative (nearestRank (num * one) den)

def ofNat (n : Nat) : Double := ofRatio false n 1

def ofInt (n : Int) : Double := ofRatio (n < 0) n.natAbs 1

/-- Equality of numbers: the two zeros are equal, and nothing equals a NaN. -/
def same : Double → Double → Bool
  | finite s a, finite t b => a = b && (s = t || a.val = 0)
  | infinite s, infinite t => s = t
  | _, _ => false

/-! ## Order -/

/-- The place of a number on the number line; zero has place 0 and a NaN has none. -/
def place? : Double → Option Int
  | finite false r => some r.val
  | finite true r => some (-(r.val : Int))
  | infinite false => some rankCount
  | infinite true => some (-(rankCount : Int))
  | nan => none

def compareInt? (n : Int) : Double → Option Ordering
  | finite s r => some (compare (n * one) (if s then -(units r.val : Int) else units r.val))
  | infinite false => some .lt
  | infinite true => some .gt
  | nan => none

def compare? (x y : Double) : Option Ordering :=
  match x.place?, y.place? with
  | some a, some b => some (compare a b)
  | _, _ => none

/-! ## Dividing and rounding -/

def divNat (x : Double) (k : Nat) : Double :=
  match x with
  | finite s r => ofRank s (nearestRank (units r.val) k)
  | x => x

/-- The greater of a number and zero; a NaN counts as zero. -/
def orZero : Double → Double
  | finite false r => finite false r
  | infinite false => infinite false
  | _ => finite false 0

def below (x : Double) (k : Nat) : Bool := compareInt? k x = some .gt

end Double

end Notebook
