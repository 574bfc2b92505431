import Notebook.Number.Double
import Notebook.Text.Basic

/-! # Decimal forms of doubles

The digits of a double are the fewest that still read back as it, and of those the nearest to it. A
style says how digits are laid out: which numbers are written out in full, what an exponent looks
like, and which way an exact tie goes.
-/

namespace Notebook

/-! ## The fewest digits -/

/-- A fraction of units in multiples of `10 ^ power`. -/
def inPowers (num : Nat) (power : Int) : Nat × Nat :=
  if 0 ≤ power then (num, one * Nat.pow 10 power.toNat) else (num * Nat.pow 10 (-power).toNat, one)

/-- Whether `digits · 10 ^ power` reads back as the magnitude of a rank: it lies between the midpoints
to the neighbouring magnitudes, or on one of them if the rank is even. -/
def readsBack (rank digits : Nat) (power : Int) : Bool :=
  let (low, den) := inPowers (units (rank - 1) + units rank) power
  let (high, _) := inPowers (units rank + units (rank + 1)) power
  let twice := 2 * digits * den
  if rank % 2 = 0 then low ≤ twice && twice ≤ high else low < twice && twice < high

/-- The multiple of `10 ^ power` that reads back as a magnitude: the multiple below, or the one above,
and if both do, the nearer one. -/
def hit? (tie : Tie) (rank : Nat) (power : Int) : Option Nat :=
  let (num, den) := inPowers (units rank) power
  let below := num / den
  let nearer := roundDiv tie num den
  let farther := if nearer = below then below + 1 else below
  if readsBack rank nearer power then some nearer
  else if readsBack rank farther power then some farther
  else none

/-- Tries `power`, `power - 1`, …, for the coarsest grid of decimals that has a hit. -/
def firstHit (tie : Tie) (rank : Nat) : Nat → Int → Nat × Int
  | 0, power => (0, power)
  | fuel + 1, power =>
    match hit? tie rank power with
    | some digits => (digits, power)
    | none => firstHit tie rank fuel (power - 1)

/-- Digits and the power of ten of the last one. The search starts at the number of digits before the
decimal point, and no double needs digits beyond the 343rd place after it. -/
def shortest (tie : Tie) (rank : Nat) : Nat × Int :=
  let start := (Nat.toDigits 10 (units rank / one)).length
  firstHit tie rank (start + 345) start

/-! ## Layout -/

structure NumberStyle where
  /-- Whether a number whose first digit stands for this power of ten is written out in full. -/
  isPositional : Int → Bool
  /-- Whole numbers written out in full end in `.0`. -/
  wholePoint : Bool
  /-- A single digit before an exponent is followed by `.0`. -/
  mantissaPoint : Bool
  /-- The fewest digits of an exponent. -/
  exponentWidth : Nat
  tie : Tie

/-- Digits before a point that stands `places` digits after the first, with zeros filled in. -/
def positional (wholePoint : Bool) (digits : Text) (places : Int) : Text :=
  if places ≤ 0 then "0.".toList ++ List.replicate (-places).toNat '0' ++ digits
  else if digits.length ≤ places.toNat then
    digits ++ List.replicate (places.toNat - digits.length) '0' ++ (if wholePoint then ".0".toList else [])
  else digits.take places.toNat ++ '.' :: digits.drop places.toNat

def scientific (style : NumberStyle) (digits : Text) (exponent : Int) : Text :=
  let mantissa := match digits with
    | [] => []
    | [d] => if style.mantissaPoint then [d, '.', '0'] else [d]
    | d :: rest => d :: '.' :: rest
  let power := Nat.toDigits 10 exponent.natAbs
  mantissa ++ ['e', if exponent < 0 then '-' else '+']
    ++ List.replicate (style.exponentWidth - power.length) '0' ++ power

def NumberStyle.layOut (style : NumberStyle) (digits : Text) (power : Int) : Text :=
  let places := digits.length + power
  if style.isPositional (places - 1) then positional style.wholePoint digits places
  else scientific style digits (places - 1)

def NumberStyle.write (style : NumberStyle) (negative : Bool) (rank : Nat) : Text :=
  let sign : Text := if negative then ['-'] else []
  if rank = 0 then sign ++ style.layOut ['0'] 0
  else
    let (digits, power) := shortest style.tie rank
    sign ++ style.layOut (Nat.toDigits 10 digits) power

/-- Field values: always in full, and a whole number has no point. Of two forms the greater is chosen. -/
def plainStyle : NumberStyle := ⟨fun _ => true, false, false, 1, .up⟩

def Double.plain : Double → Text
  | finite negative rank => plainStyle.write negative rank
  | infinite false => "inf".toList
  | infinite true => "-inf".toList
  | nan => "NaN".toList

/-! ## A fixed number of places -/

def tenths (rank : Nat) : Text :=
  let n := roundDiv .toEven (10 * units rank) one
  Nat.toDigits 10 (n / 10) ++ '.' :: Nat.toDigits 10 (n % 10)

end Notebook
