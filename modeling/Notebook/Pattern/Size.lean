import Notebook.Pattern.Basic

/-! # The size of an expression

An expression is made into states before it is tried, once to be read forward and once backward. The
states work on the octets of UTF-8, so that a set of characters costs as many states as its octets need.
An expression is refused if its states take too much room in one of the two directions.
-/

namespace Notebook

/-! ## Sets as ranges -/

def blankRanges : Ranges := [
  (0x9, 0xD), (0x20, 0x20), (0x85, 0x85), (0xA0, 0xA0), (0x1680, 0x1680), (0x2000, 0x200A),
  (0x2028, 0x2029), (0x202F, 0x202F), (0x205F, 0x205F), (0x3000, 0x3000)]

def CharSet.ranges (anyCase : Bool) : CharSet → Ranges
  | none => []
  | range low high => if anyCase then formsOfRange low high else [(low, high)]
  | digit => digitRanges
  | blank => blankRanges
  | word => wordRanges
  | negated s => (s.ranges anyCase).complement
  | union s t => (s.ranges anyCase).union (t.ranges anyCase)
  | inter s t => (s.ranges anyCase).inter (t.ranges anyCase)
  | diff s t => (s.ranges anyCase).diff (t.ranges anyCase)
  | symmDiff s t =>
    let (a, b) := (s.ranges anyCase, t.ranges anyCase)
    (a.diff b).union (b.diff a)

/-! ## Ranges of octets -/

/-- For every octet of a character the range from which it is taken. -/
abbrev OctetRanges := List (Nat × Nat)

/-- The characters from `low` to `high`, whose codes are written with `more` octets after the first, as
few sequences in which every octet is taken from its range on its own. The first octet is counted from
`offset`, and every octet after it has six bits. -/
def octetRanges : (offset more low high : Nat) → List OctetRanges
  | offset, 0, low, high => [[(offset + low, offset + high)]]
  | offset, more + 1, low, high =>
    let block := Nat.pow 64 (more + 1)
    let (first, last) := (low / block, high / block)
    let within (lead low high : Nat) : List OctetRanges :=
      (octetRanges 0x80 more low high).map ((offset + lead, offset + lead) :: ·)
    if first = last then within first (low % block) (high % block)
    else
      let startsInside := low % block ≠ 0
      let endsInside := high % block ≠ block - 1
      let firstWhole := if startsInside then first + 1 else first
      let pastWhole := if endsInside then last else last + 1
      (if startsInside then within first (low % block) (block - 1) else [])
        ++ (if firstWhole < pastWhole then
            [(offset + firstWhole, offset + (pastWhole - 1)) :: List.replicate (more + 1) (0x80, 0xBF)]
          else [])
        ++ (if endsInside then within last 0 (high % block) else [])

/-- The code points that are written with the same number of octets: the first and the last of them,
where the first octet is counted from, and how many octets follow it. Surrogates are not written. -/
def octetClasses : List (Nat × Nat × Nat × Nat) :=
  [(0, 0x7F, 0, 0), (0x80, 0x7FF, 0xC0, 1), (0x800, 0xD7FF, 0xE0, 2), (0xE000, 0xFFFF, 0xE0, 2),
    (0x10000, 0x10FFFF, 0xF0, 3)]

def Ranges.octets (rs : Ranges) : List OctetRanges :=
  rs.flatMap fun (low, high) => octetClasses.flatMap fun (first, last, offset, more) =>
    let (low, high) := (max low first, min high last)
    if low ≤ high then octetRanges offset more low high else []

def commonStart : OctetRanges → OctetRanges → Nat
  | a :: s, b :: t => if a = b then commonStart s t + 1 else 0
  | _, _ => 0

/-- How many octets are left if every sequence shares its start with the one before it. -/
def unsharedOctets : List OctetRanges → Nat
  | [] => 0
  | [s] => s.length
  | s :: t :: rest => unsharedOctets (t :: rest) + (s.length - commonStart s t)

/-! ## Room -/

inductive Direction where
  | forward
  | backward
  deriving DecidableEq, Repr

/-- The room of a state, of a step on an octet that it holds, and of a branch that it holds. -/
def stateRoom : Nat := 32
def stepRoom : Nat := 8
def branchRoom : Nat := 4

/-- The room of a character out of some ranges. A single character is written out. ASCII characters need
one state for them all. Other characters need a state with steps wherever one of their sequences branches
off, or read backward a state for every octet. -/
def Ranges.room (direction : Direction) (rs : Ranges) : Nat :=
  let sequences := rs.octets
  let octets := unsharedOctets sequences
  match rs with
  | [(low, high)] => if low = high then octets * stateRoom else wide sequences.length octets
  | _ => wide sequences.length octets
where
  wide (sequences octets : Nat) : Nat :=
    if rs.all fun (_, high) => high < 0x80 then 2 * stateRoom + rs.length * stepRoom
    else match direction with
      | .forward => (2 + octets - sequences) * stateRoom + octets * stepRoom
      | .backward => (2 + octets) * stateRoom + sequences * branchRoom

namespace Pattern

/-- Whether an expression stands for one character, and the ranges of that character. -/
def charRanges? : Pattern → Option Ranges
  | letter anyCase c =>
    some (Ranges.tidy (if anyCase then (letterForms c).map fun n => (n, n) else [(c.toNat, c.toNat)]))
  | oneOf anyCase s => some (s.ranges anyCase)
  | alt p q =>
    match p.charRanges?, q.charRanges? with
    | some a, some b => some (a.union b)
    | _, _ => none
  | _ => none

def branches : Pattern → Nat
  | alt p q => p.branches + q.branches
  | _ => 1

/-- The room of the fork to the branches of an alternative and of the place where they meet. -/
def forkRoom : Pattern → Nat
  | alt p q =>
    if (alt p q).charRanges?.isSome then 0 else 2 * stateRoom + (alt p q).branches * branchRoom
  | _ => 0

/-- The room of the states of an expression. Repeats are written out, and every repeat that need not be
made has a fork in front of it. -/
def room (direction : Direction) : Pattern → Nat
  | empty => stateRoom
  | letter anyCase c => (((letter anyCase c).charRanges?).getD []).room direction
  | oneOf anyCase s => (s.ranges anyCase).room direction
  | place _ => stateRoom
  | seq p q =>
    if p = empty then q.room direction
    else if q = empty then p.room direction
    else p.room direction + q.room direction
  | alt p q =>
    match (alt p q).charRanges? with
    | some rs => rs.room direction
    | none =>
      (p.room direction - p.forkRoom) + (q.room direction - q.forkRoom) + (alt p q).forkRoom
  | group p => p.room direction + (if direction = .forward then 2 * stateRoom else 0)
  | repeated p least most =>
    let once := p.room direction
    let fork := stateRoom + 2 * branchRoom
    match most with
    | none =>
      if least ≠ 0 then least * once + fork
      else if p.isNeverEmpty then once + fork
      else once + 2 * fork + stateRoom
    | some most =>
      if least = most then least * once
      else if least = 0 && most = 1 then once + fork + stateRoom
      else max (least * once) (if least = 0 then stateRoom else 0) + stateRoom + (most - least) * (once + fork)

/-- The room of what is around an expression: a loop to the place where a match begins, the marks of its
two ends, and the end of the search. -/
def frameRoom (direction : Direction) : Nat :=
  4 * stateRoom + stepRoom + branchRoom + (if direction = .forward then 2 * stateRoom else 0)

def greatestRoom : Nat := 10 * 1024 * 1024

def isTooLarge (p : Pattern) : Bool :=
  [Direction.forward, Direction.backward].any fun direction =>
    greatestRoom < frameRoom direction + p.room direction

end Pattern

end Notebook
