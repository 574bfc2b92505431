/-! # Sets of characters as ranges of code points -/

namespace Notebook

/-- Ranges of code points, both ends included, in rising order and apart from each other. -/
abbrev Ranges := List (Nat × Nat)

/-- Whether a code point lies in one of the ranges; the search ends at the first range past it. -/
def Ranges.covers : Ranges → Nat → Bool
  | [], _ => false
  | (low, high) :: rest, n => if n < low then false else if n ≤ high then true else Ranges.covers rest n

/-! ## Making ranges -/

namespace Ranges

/-- Ranges in order of their lower ends, the first of them given apart, joined where they touch. -/
def joinFrom (low high : Nat) : Ranges → Ranges
  | [] => [(low, high)]
  | (next, last) :: rest =>
    if next ≤ high + 1 then joinFrom low (max high last) rest else (low, high) :: joinFrom next last rest

def tidy (rs : Ranges) : Ranges :=
  match rs.mergeSort fun a b => a.1 ≤ b.1 with
  | [] => []
  | (low, high) :: rest => joinFrom low high rest

def greatestCode : Nat := 0x10FFFF

/-- The code points from `next` on that are in none of the ranges. -/
def gapsFrom (next : Nat) : Ranges → Ranges
  | [] => if next ≤ greatestCode then [(next, greatestCode)] else []
  | (low, high) :: rest => (if next < low then [(next, low - 1)] else []) ++ gapsFrom (high + 1) rest

def complement (rs : Ranges) : Ranges := gapsFrom 0 rs

def union (a b : Ranges) : Ranges := tidy (a ++ b)

def inter (a b : Ranges) : Ranges := complement (union (complement a) (complement b))

def diff (a b : Ranges) : Ranges := inter a (complement b)

end Ranges

/-! ## Case pairs -/

/-- The characters `first`, `first + step`, …, `last`, of which `first` goes to `target`, the next one to
`target + step`, and so on. -/
structure CaseRun where
  first : Nat
  last : Nat
  step : Nat
  target : Nat

def CaseRun.image? (r : CaseRun) (n : Nat) : Option Nat :=
  if r.first ≤ n ∧ n ≤ r.last ∧ (n - r.first) % r.step = 0 then some (r.target + (n - r.first)) else none

def CaseRun.source? (r : CaseRun) (n : Nat) : Option Nat :=
  if r.target ≤ n ∧ n ≤ r.target + (r.last - r.first) ∧ (n - r.target) % r.step = 0 then
    some (r.first + (n - r.target))
  else none

def CaseRun.pairs (r : CaseRun) : List (Nat × Nat) :=
  (List.range ((r.last - r.first) / r.step + 1)).map fun k => (r.first + k * r.step, r.target + k * r.step)

def imageIn : List CaseRun → Nat → Option Nat
  | [], _ => none
  | r :: rest, n => if n < r.first then none else (r.image? n).or (imageIn rest n)

end Notebook
