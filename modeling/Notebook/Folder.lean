import Notebook.Failure
import Notebook.Store.Tables
import Notebook.Text.Utf8

/-! # Files and directories

A folder holds files and directories by their places, which are the names on the way from the root. A
path is walked from the working directory, or from the root if it starts with a slash, and every place
it passes must be a directory. Names and paths have a greatest length.
-/

namespace Notebook

/-! ## Paths of files -/

namespace FilePath

def isAbsolute (path : Text) : Bool := path.head? = some '/'

/-- A path taken from a directory; an absolute path is taken as it is. -/
def joined (base path : Text) : Text :=
  if isAbsolute path || base = [] then path
  else if base.getLast? = some '/' then base ++ path
  else base ++ '/' :: path

def parts (path : Text) : List Text := path.pieces (· = '/')

/-- The parts before the last one, if a slash follows the last one and it is a name. -/
def beforeSlashed? (path : Text) : Option (List Text) :=
  match (parts path).reverse with
  | [] :: rest =>
    match rest.dropWhile (· = []) with
    | [] => none
    | name :: before => if name = ['.'] || name = ['.', '.'] then none else some before.reverse
  | _ => none

/-- The greatest length of a name, in octets. -/
def greatestName : Nat := 255

def greatestPath : Nat := 4095

/-- A path backwards without the slashes and the `/.` at its end; of the root a slash is left. -/
def trimmedBack : Text → Text
  | ['/'] => ['/']
  | '/' :: rest => trimmedBack rest
  | '.' :: '/' :: rest => trimmedBack ('/' :: rest)
  | t => t

/-- The path of the directory around a path; the root and the empty path have none. -/
def parent? (path : Text) : Option Text :=
  match trimmedBack path.reverse with
  | [] => none
  | ['/'] => none
  | back => some (trimmedBack (back.dropWhile (· ≠ '/'))).reverse

end FilePath

/-! ## Folders -/

inductive Entry where
  | directory
  | file (content : List UInt8)
  | store (s : Store)

/-- The names on the way from the root. -/
abbrev FilePlace := List Text

structure Folder where
  entries : List (FilePlace × Entry)
  here : FilePlace

namespace Folder

def at? (f : Folder) (place : FilePlace) : Option Entry :=
  if place = [] then some .directory else f.entries.lookup place

def put (f : Folder) (place : FilePlace) (e : Entry) : Folder :=
  { f with entries := (place, e) :: f.entries.filter (·.1 ≠ place) }

def enter (f : Folder) (place : FilePlace) : Except FileProblem FilePlace :=
  match f.at? place with
  | some .directory => .ok place
  | some _ => .error .notDirectory
  | none => .error .missing

/-- Walks on from a place. There need be nothing at the last place. -/
def walk (f : Folder) (place : FilePlace) : List Text → Except FileProblem FilePlace
  | [] => .ok place
  | part :: rest => do
    let place ← f.enter place
    if part = [] || part = ['.'] then f.walk place rest
    else if part = ['.', '.'] then f.walk place.dropLast rest
    else if Utf8.size part > FilePath.greatestName then .error .nameTooLong
    else f.walk (place ++ [part]) rest

def start (f : Folder) (path : Text) : FilePlace := if FilePath.isAbsolute path then [] else f.here

/-- What is wrong with a path, whatever the folder holds. -/
def pathProblem? (path : Text) : Option FileProblem :=
  if '\x00' ∈ path then some .zeroInName
  else if path = [] then some .missing
  else if Utf8.size path > FilePath.greatestPath then some .nameTooLong
  else none

def locate (f : Folder) (path : Text) : Except FileProblem FilePlace :=
  match pathProblem? path with
  | some problem => .error problem
  | none => f.walk (f.start path) (FilePath.parts path)

def find? (f : Folder) (path : Text) : Option Entry :=
  match f.locate path with
  | .ok place => f.at? place
  | .error _ => none

def holds (f : Folder) (path : Text) : Bool := (f.find? path).isSome

def isDirectory (f : Folder) (path : Text) : Bool :=
  match f.find? path with
  | some .directory => true
  | _ => false

/-! ## Making directories -/

/-- Makes one directory; slashes at the end of its path do not count. -/
def makeDirectory (f : Folder) (path : Text) : Except FileProblem Folder := do
  let stripped := (path.reverse.dropWhile (· = '/')).reverse
  let place ← f.locate (if stripped = [] then path else stripped)
  match f.at? place with
  | some _ => .error .alreadyExists
  | none => return f.put place .directory

def ensureOne (f : Folder) (path : Text) : Except FileProblem Folder :=
  match f.makeDirectory path with
  | .ok made => .ok made
  | .error e => if f.isDirectory path then .ok f else .error e

/-- Makes a directory and those around it that are missing; `fuel` bounds their number. -/
def ensureWithin (f : Folder) (path : Text) : Nat → Except FileProblem Folder
  | 0 => .error .missing
  | fuel + 1 =>
    if path = [] then .ok f
    else match f.ensureOne path with
      | .error .missing =>
        match FilePath.parent? path with
        | none => .error .missing
        | some around => do (← f.ensureWithin around fuel).ensureOne path
      | outcome => outcome

def ensureDirectory (f : Folder) (path : Text) : Except FileProblem Folder :=
  f.ensureWithin path (path.length + 1)

/-! ## Writing -/

/-- The place of a file to which something is to be added. A name with a slash after it is never one of a
file. -/
def filePlace (f : Folder) (path : Text) : Except FileProblem FilePlace := do
  if let some problem := pathProblem? path then throw problem
  if let some before := FilePath.beforeSlashed? path then
    let _ ← f.enter (← f.walk (f.start path) before)
    throw .isDirectory
  let place ← f.locate path
  match f.at? place with
  | some .directory => throw .isDirectory
  | _ => return place

def appendProblem? (f : Folder) (path : Text) : Option FileProblem :=
  match f.filePlace path with
  | .error e => some e
  | .ok _ => none

/-- Adds text at the end of a file, which is made if it is missing. -/
def append (f : Folder) (path : Text) (t : Text) : Folder :=
  match f.filePlace path with
  | .error _ => f
  | .ok place =>
    match f.at? place with
    | some (.file content) => f.put place (.file (content ++ Utf8.encode t))
    | none => f.put place (.file (Utf8.encode t))
    | some _ => f

end Folder

end Notebook
