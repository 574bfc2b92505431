import Notebook.Pattern.Basic

/-! # Matching

A place in a text is the number of characters before it, the last of them, and the rest of the text.
An expression takes a set of places where matches may begin to the set of places where they end, so
that all ways to match are followed at once and the work is bounded by the size of the text.
-/

namespace Notebook

structure Spot where
  index : Nat
  last : Option Char
  rest : Text
  deriving DecidableEq, Repr

/-! ## Sets of places -/

/-- Places of one text, in rising order. -/
abbrev Spots := List Spot

namespace Spots

def since (index : Nat) (last : Option Char) : Text → Spots
  | [] => [⟨index, last, []⟩]
  | c :: rest => ⟨index, last, c :: rest⟩ :: since (index + 1) (some c) rest

def ofText (t : Text) : Spots := since 0 none t

def union : Spots → Spots → Spots
  | [], b => b
  | a, [] => a
  | s :: a, t :: b =>
    if s.index < t.index then s :: union a (t :: b)
    else if t.index < s.index then t :: union (s :: a) b
    else s :: union a b
  termination_by a b => a.length + b.length

def minus : Spots → Spots → Spots
  | [], _ => []
  | a, [] => a
  | s :: a, t :: b =>
    if s.index < t.index then s :: minus a (t :: b)
    else if t.index < s.index then minus (s :: a) b
    else minus a b
  termination_by a b => a.length + b.length

end Spots

/-! ## Steps -/

def Spot.past? (wanted : Char → Bool) (s : Spot) : Option Spot :=
  match s.rest with
  | [] => none
  | c :: rest => if wanted c then some ⟨s.index + 1, some c, rest⟩ else none

/-- So many steps, or fewer if no places are left. -/
def iterate (step : Spots → Spots) : Nat → Spots → Spots
  | 0, spots => spots
  | n + 1, spots => if spots = [] then [] else iterate step n (step spots)

/-- Places reached in at most `n` steps from `fresh`, with those in `seen`, which were reached before. -/
def reach (step : Spots → Spots) : Nat → Spots → Spots → Spots
  | 0, _, seen => seen
  | n + 1, fresh, seen =>
    let next := (step fresh).minus seen
    if next = [] then seen else reach step n next (seen.union next)

/-- The most steps that can lead to new places. -/
def Spots.span (spots : Spots) : Nat := (spots.head?.map (·.rest.length + 1)).getD 0

/-! ## Matches -/

namespace Pattern

/-- Where matches end that begin at one of the places. -/
def ends : Pattern → Spots → Spots
  | empty, spots => spots
  | letter anyCase c, spots => spots.filterMap (·.past? fun d => if anyCase then sameLetter c d else c = d)
  | oneOf anyCase s, spots => spots.filterMap (·.past? fun d => s.has anyCase d)
  | place p, spots => spots.filter fun s => p.holds s.last s.rest.head?
  | seq p q, spots => q.ends (p.ends spots)
  | alt p q, spots => (p.ends spots).union (q.ends spots)
  | group p, spots => p.ends spots
  | repeated p least most, spots =>
    let started := iterate p.ends least spots
    let more := match most with
      | some most => most - least
      | none => started.span
    reach p.ends more started started

/-- Whether some part of a text matches. -/
def isIn (p : Pattern) (t : Text) : Bool := p.ends (Spots.ofText t) ≠ []

end Pattern

end Notebook
