import Notebook.Notes
import Notebook.Notice
import Notebook.Page.Draft
import Notebook.Text.Utf8

/-! # Reading pages

The notes of a page are gathered by path: a note at a path that is already taken is merged into the
one there.
-/

namespace Notebook

/-! ## Gathering -/

namespace Notes

def gatherOne (notes : Notes) (n : Note) : Except Failure Notes :=
  match notes.get? n.path with
  | none => .ok (notes.put n.path n)
  | some earlier => (earlier.merge n).map (notes.put n.path)

def gather (notes : Notes) (found : List Note) : Except Failure Notes := found.foldlM gatherOne notes

/-- The paths at which notes are merged when they are gathered. -/
def repeated (notes : Notes) : List Note → List Text
  | [] => []
  | n :: rest =>
    match notes.get? n.path with
    | none => repeated (notes.put n.path n) rest
    | some _ => n.path :: repeated notes rest

end Notes

def readPage (page : Text) : Except Failure Notes := Notes.empty.gather (notesOnLines page.lines)

/-! ## Files -/

inductive PageFile where
  | bytes (content : List UInt8)
  | missing
  | directory
  | closed (problem : FileProblem)
  deriving DecidableEq, Repr

structure FileReading where
  notes : Notes
  notices : List Notice
  failure : Option Failure

/-- The lines of a file up to the first that is not valid UTF-8, and whether there is such a line. -/
def decodedLines : List (List UInt8) → List Text × Bool
  | [] => ([], false)
  | line :: rest =>
    match Utf8.decode? line with
    | none => ([], true)
    | some t =>
      let (ls, bad) := decodedLines rest
      (t :: ls, bad)

def gatherFrom (notes : Notes) (quiet : Bool) (found : List Note) (failure : Option Failure) : FileReading :=
  let notices := if quiet then [] else (notes.repeated found).map .pathRepeated
  match notes.gather found with
  | .ok gathered => ⟨gathered, notices, failure⟩
  | .error e => ⟨notes, notices, some e⟩

/-- Reads a file of notes into those of earlier files. A missing file holds no notes. At a line that is
not valid UTF-8 reading ends, and the note it stands in is lost. -/
def gatherFile (name : Text) (file : PageFile) (quiet : Bool) (notes : Notes) : FileReading :=
  match file with
  | .missing => ⟨notes, [.fileMissing name], none⟩
  | .directory => ⟨notes, [], some (.file .isDirectory)⟩
  | .closed problem => ⟨notes, [], some (.file problem)⟩
  | .bytes content =>
    let (ls, bad) := decodedLines (Utf8.lines content)
    if bad then gatherFrom notes quiet (Draft.start.through ls).1 (some (.file .notUtf8))
    else gatherFrom notes quiet (notesOnLines ls) none

end Notebook
