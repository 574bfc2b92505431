import Notebook.Failure

/-! # What keeps a store from being used

Another program can hold the store, and then it cannot be written, or not even read. A store can also be
one that is only there to be read.
-/

namespace Notebook

inductive Hold where
  | free
  /-- It can only be read, whatever other programs do. -/
  | readOnly
  /-- Another program is about to write: the store can be read and not written. -/
  | writing
  /-- Another program keeps the store from being read or written. -/
  | exclusive
  deriving DecidableEq, Repr

namespace Hold

def canRead (h : Hold) : Bool := h ≠ exclusive

def canWrite (h : Hold) : Bool := h = free

def writeFailure : Hold → Failure
  | readOnly => .database
  | _ => .databaseLocked

def reading {α : Type} (h : Hold) (answer : Except Failure α) : Except Failure α :=
  if h.canRead then answer else .error .databaseLocked

end Hold

end Notebook
