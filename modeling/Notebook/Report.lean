/-! # What saving did -/

namespace Notebook

structure Report where
  /-- Notes stored where there was none. -/
  inserted : Nat
  /-- Notes merged into the one at their path. -/
  merged : Nat
  replaced : Nat
  deleted : Nat
  renamed : Nat
  /-- Stored notes copied to the archive before they were changed or deleted. -/
  archived : Nat
  deriving DecidableEq, Repr

namespace Report

def zero : Report := ⟨0, 0, 0, 0, 0, 0⟩

def total (r : Report) : Nat := r.inserted + r.merged + r.replaced + r.deleted

def add (r s : Report) : Report :=
  ⟨r.inserted + s.inserted, r.merged + s.merged, r.replaced + s.replaced, r.deleted + s.deleted,
    r.renamed + s.renamed, r.archived + s.archived⟩

end Report

end Notebook
