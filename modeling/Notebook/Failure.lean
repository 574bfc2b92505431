import Notebook.Text.Quoted

/-! # What can go wrong -/

namespace Notebook

/-! ## Files -/

inductive FileProblem where
  | missing
  | alreadyExists
  | notDirectory
  | isDirectory
  | notUtf8
  | nameTooLong
  | zeroInName
  deriving DecidableEq, Repr

def FileProblem.message : FileProblem → Text
  | missing => "No such file or directory (os error 2)".toList
  | alreadyExists => "File exists (os error 17)".toList
  | notDirectory => "Not a directory (os error 20)".toList
  | isDirectory => "Is a directory (os error 21)".toList
  | notUtf8 => "stream did not contain valid UTF-8".toList
  | nameTooLong => "File name too long (os error 36)".toList
  | zeroInName => "file name contained an unexpected NUL byte".toList

/-! ## Notes and the store -/

/-- The columns of records that can be required to differ from row to row. -/
inductive UniqueColumn where
  | path
  | text
  deriving DecidableEq, Repr

def UniqueColumn.name : UniqueColumn → Text
  | path => "records.path".toList
  | text => "records.text".toList

/-- What the engine says of a row that repeats what another has in the column. -/
def UniqueColumn.violation (column : UniqueColumn) : Text := "UNIQUE constraint failed: ".toList ++ column.name

inductive Failure where
  /-- The store cannot be read, or the query is none that it understands. -/
  | database
  /-- Another program holds the store. -/
  | databaseLocked
  | integrityViolation (reason : Text)
  | duplicatePath (path : Text)
  | incompatibleMerge (path other : Text)
  | savedQueryNotFound (name : Text)
  | file (problem : FileProblem)
  deriving DecidableEq, Repr

namespace Failure

def message : Failure → Text
  | database => "Database error".toList
  | databaseLocked => "Database is locked (apparently another program is using it)".toList
  | integrityViolation reason => "Integrity violation: ".toList ++ reason
  | duplicatePath path => "Cannot add note; path is in use: ".toList ++ path
  | incompatibleMerge path other =>
    "Cannot merge notes: cannot merge notes with different notepaths: ".toList ++ path.quoted
      ++ " and ".toList ++ other.quoted
  | savedQueryNotFound name => "Saved query not found: ".toList ++ name
  | file problem => "IO error: ".toList ++ problem.message

/-- Failures after which nothing else can be done with the store. -/
def isFatal : Failure → Bool
  | database | databaseLocked => true
  | _ => false

end Failure

end Notebook
