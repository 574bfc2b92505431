import Notebook.Text.Basic
import Notebook.Text.CaseFold
import Notebook.Text.WordClass

/-! # Search expressions -/

namespace Notebook

/-! ## Sets of characters -/

inductive CharSet where
  | none
  | range (low high : Nat)
  /-- `\d`, `\s` and `\w`. -/
  | digit
  | blank
  | word
  | negated (s : CharSet)
  | union (s t : CharSet)
  | inter (s t : CharSet)
  | diff (s t : CharSet)
  | symmDiff (s t : CharSet)
  deriving DecidableEq, Repr

namespace CharSet

/-- Whether a character is in a set. If case does not count, a range holds all forms of its letters. -/
def has (anyCase : Bool) (c : Char) : CharSet → Bool
  | none => false
  | range low high =>
    if anyCase then (letterForms c).any fun n => low ≤ n && n ≤ high
    else low ≤ c.toNat && c.toNat ≤ high
  | digit => isDigitChar c
  | blank => Text.isBlankChar c
  | word => isWordChar c
  | negated s => !s.has anyCase c
  | union s t => s.has anyCase c || t.has anyCase c
  | inter s t => s.has anyCase c && t.has anyCase c
  | diff s t => s.has anyCase c && !t.has anyCase c
  | symmDiff s t => s.has anyCase c != t.has anyCase c

end CharSet

/-! ## Places -/

inductive Place where
  | textStart
  | textEnd
  | lineStart
  | lineEnd
  | edge
  | noEdge
  | wordStart
  | wordEnd
  | wordStartHalf
  /-- No word character after it. -/
  | wordEndHalf
  deriving DecidableEq, Repr

def Place.holds (last next : Option Char) : Place → Bool
  | textStart => last.isNone
  | textEnd => next.isNone
  | lineStart => last.all (· = '\n')
  | lineEnd => next.all (· = '\n')
  | edge => last.any isWordChar != next.any isWordChar
  | noEdge => last.any isWordChar == next.any isWordChar
  | wordStart => !last.any isWordChar && next.any isWordChar
  | wordEnd => last.any isWordChar && !next.any isWordChar
  | wordStartHalf => !last.any isWordChar
  | wordEndHalf => !next.any isWordChar

/-! ## Expressions -/

inductive Pattern where
  | empty
  | letter (anyCase : Bool) (c : Char)
  | oneOf (anyCase : Bool) (s : CharSet)
  | place (p : Place)
  | seq (p q : Pattern)
  | alt (p q : Pattern)
  /-- A group whose part of a match is kept. -/
  | group (p : Pattern)
  /-- From `least` to `most` repeats; without `most` there is no bound. -/
  | repeated (p : Pattern) (least : Nat) (most : Option Nat)
  deriving DecidableEq, Repr

namespace Pattern

def isEmptyOnly : Pattern → Bool
  | empty | place _ => true
  | letter _ _ | oneOf _ _ => false
  | seq p q | alt p q => p.isEmptyOnly && q.isEmptyOnly
  | group p => p.isEmptyOnly
  | repeated p _ most => p.isEmptyOnly || most = some 0

def isNeverEmpty : Pattern → Bool
  | empty | place _ => false
  | letter _ _ => true
  | oneOf _ _ => true
  | seq p q => p.isNeverEmpty || q.isNeverEmpty
  | alt p q => p.isNeverEmpty && q.isNeverEmpty
  | group p => p.isNeverEmpty
  | repeated p least _ => least ≠ 0 && p.isNeverEmpty

/-- Repeats of an expression in the simplest form: what matches the empty text only is repeated once at
most, no repeat is the empty text, and one repeat is the expression itself. -/
def repeats (p : Pattern) (least : Nat) (most : Option Nat) : Pattern :=
  let (least, most) := if p.isEmptyOnly then (min least 1, some (min (most.getD 1) 1)) else (least, most)
  if most = some 0 then empty
  else if least = 1 && most = some 1 then p
  else repeated p least most

end Pattern

def notLineFeed : CharSet := .negated (.range 10 10)

def anyChar : CharSet := .negated .none

end Notebook
