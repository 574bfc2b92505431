import Notebook.Failure
import Notebook.Report
import Notebook.Text.Quoted

/-! # Notices

What is told beside the answers: warnings, and what was done to the store.
-/

namespace Notebook

inductive Notice where
  /-- A path was used more than once on the pages read together. -/
  | pathRepeated (path : Text)
  | fileMissing (file : Text)
  | unknownDirective (path directive : Text)
  | badFieldTerm (warning : Text)
  | nothingToSave (name : Text)
  | noSuchQuery (name : Text)
  | notesSaved (report : Report)
  | querySaved (name : Text)
  | queryRemoved (name : Text)
  deriving DecidableEq, Repr

namespace Notice

def isWarning : Notice → Bool
  | notesSaved _ | querySaved _ | queryRemoved _ => false
  | _ => true

def message : Notice → Text
  | pathRepeated _ => "notepath used more than once".toList
  | fileMissing _ => "note file not found".toList
  | unknownDirective _ _ => "unknown directive; replacing note".toList
  | badFieldTerm warning => warning
  | nothingToSave _ => "cannot save query with no parameters".toList
  | noSuchQuery _ => "no saved query by that name".toList
  | notesSaved _ => "saved notes".toList
  | querySaved _ => "saved query".toList
  | queryRemoved _ => "removed saved query".toList

def details : Notice → List (Text × Text)
  | pathRepeated path => [("path".toList, path)]
  | fileMissing file => [("file".toList, file)]
  | unknownDirective path directive => [("path".toList, path), ("directive".toList, directive)]
  | badFieldTerm _ => []
  | nothingToSave name => [("name".toList, name)]
  | noSuchQuery name => [("name".toList, name.quoted)]
  | notesSaved report =>
    [("inserted".toList, Nat.toDigits 10 report.inserted), ("merged".toList, Nat.toDigits 10 report.merged),
      ("replaced".toList, Nat.toDigits 10 report.replaced), ("deleted".toList, Nat.toDigits 10 report.deleted),
      ("archived".toList, Nat.toDigits 10 report.archived)]
  | querySaved name => [("name".toList, name.quoted)]
  | queryRemoved name => [("name".toList, name.quoted)]

/-- Characters that a terminal could take for commands are written by their codes. -/
def tameChar (c : Char) : Text :=
  if c = '\x07' || c = '\x08' || c = '\x0c' || c = '\x1b' || c = '\x7f' then
    ['\\', 'x'] ++ List.replicate (2 - (hexDigits c.toNat).length) '0' ++ hexDigits c.toNat
  else if 0x80 ≤ c.toNat && c.toNat ≤ 0x9F then codeEscape c
  else [c]

/-- The notice on one line: its level, its message, in which nothing steers a terminal, and its
details. -/
def line (n : Notice) : Text :=
  (if n.isWarning then "WARN ".toList else "INFO ".toList) ++ n.message.flatMap tameChar
    ++ n.details.flatMap fun (name, value) => ' ' :: name ++ '=' :: value

end Notice

end Notebook
