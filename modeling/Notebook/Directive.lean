import Notebook.Text.Basic

/-! # Directives

A directive says what becomes of a note when it is saved.
-/

namespace Notebook

inductive Directive where
  | insert
  | replace
  | delete
  | addOnly
  | rename (path : Text)
  | merge
  | unknown (text : Text)
  deriving DecidableEq, Repr

instance : Inhabited Directive := ⟨.insert⟩

namespace Directive

/-- `rename` or `newpath` with a path after a blank; any other words are no directive. -/
def readWords (t : Text) : Directive :=
  match t.cutAt? Text.isBlankChar with
  | some (word, rest) =>
    if (word = "rename".toList || word = "newpath".toList) && rest.trim ≠ [] then rename rest.trim
    else unknown t
  | none => unknown t

def read (text : Text) : Directive :=
  let t := text.trim
  if t = [] then insert
  else if t = "replace".toList then replace
  else if t = "delete".toList then delete
  else if t = "add".toList then addOnly
  else if t = "merge".toList then merge
  else readWords t

def written : Directive → Text
  | insert => []
  | replace => "replace".toList
  | delete => "delete".toList
  | addOnly => "add".toList
  | merge => "merge".toList
  | rename path => "rename ".toList ++ path
  | unknown text => text

end Directive

end Notebook
