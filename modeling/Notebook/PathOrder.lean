import Notebook.Text.Lowercase
import Notebook.Text.Order

/-! # The order of paths

The parts of a path are separated by `/`, so `a` is the parent of `a/b`. In the order of paths case is
ignored and the separator comes before every other character, so that a parent comes right before
its children and `a/b` is not parted from `a` by `a(b)`.
-/

namespace Notebook

def separator : Char := '/'

def pathKey (path : Text) : Text := path.lower.map fun c => if c = separator then '\x00' else c

/-- Paths of equal keys keep their order. -/
def sortPaths (paths : List Text) : List Text := sortByKey pathKey paths

end Notebook
