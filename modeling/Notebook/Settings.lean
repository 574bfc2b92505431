import Notebook.Folder
import Notebook.Settings.Toml
import Notebook.Store.Opening

/-! # Settings

Settings say where the store and the archive are kept, and whether to warn of repeated paths. They come
from a file, and from outside it, which goes before the file.
-/

namespace Notebook

structure Settings where
  dataDirectory : Text
  database : Text
  /-- From the data directory, unless absolute. -/
  archive : Text
  suppressDuplicateWarnings : Bool
  deriving DecidableEq, Repr

namespace Settings

def databasePath (s : Settings) : Text := FilePath.joined s.dataDirectory s.database

def archivePath (s : Settings) : Text := FilePath.joined s.dataDirectory s.archive

def defaultDirectory (home : Text) : Text :=
  FilePath.joined (FilePath.joined home ".local/share".toList) "notepath".toList

def default (home : Text) : Settings := ⟨defaultDirectory home, storeFileName, archiveFileName, false⟩

/-! ## The settings file -/

/-- The values of a group of settings with the given names: its members by name, or the items of an array
in order. Without the group there are none, and a date has none either. -/
def group? (document : Toml.Members) (group : String) (names : List String) : Option (List (Option Toml.Value)) :=
  match document.lookup group.toList with
  | none | some .date => some (names.map fun _ => none)
  | some (.table _ members) => some (names.map fun name => members.lookup name.toList)
  | some (.array items) => some (names.mapIdx fun i _ => items[i]?)
  | some _ => none

def text? (value : Option Toml.Value) (otherwise : Text) : Option Text :=
  match value with
  | none => some otherwise
  | some (.string t) => some t
  | some _ => none

def flag? (value : Option Toml.Value) : Option Bool :=
  match value with
  | none => some false
  | some (.boolean b) => some b
  | some _ => none

/-- The settings in a file, if it is well formed and each has the right type. Others are passed over. -/
def ofFile? (home : Text) (content : Text) : Option Settings := do
  let document ← Toml.read? content
  let base := default home
  let paths ← group? document "paths" ["data_dir", "database", "archive"]
  let output ← group? document "output" ["suppress_duplicate_warnings"]
  match paths, output with
  | [dataDirectory, database, archive], [suppress] =>
    return ⟨← text? dataDirectory base.dataDirectory, ← text? database base.database,
      ← text? archive base.archive, ← flag? suppress⟩
  | _, _ => none

/-! ## All sources -/

/-- Paths given outside the file. -/
structure Overrides where
  database : Option Text
  archive : Option Text
  deriving DecidableEq, Repr

def override (s : Settings) (o : Overrides) : Settings :=
  { s with database := o.database.getD s.database, archive := o.archive.getD s.archive }

inductive Source where
  | absent
  | content (t : Text)
  | unreadable (problem : FileProblem)
  deriving DecidableEq, Repr

inductive Problem where
  | malformed (path : Text)
  | unreadable (path : Text) (problem : FileProblem)
  deriving DecidableEq, Repr

def Problem.message : Problem → Text
  | malformed path => "Failed to parse config file ".toList ++ path
  | unreadable path _ => "Failed to read config file ".toList ++ path

def load (home path : Text) (source : Source) (o : Overrides) : Except Problem Settings :=
  match source with
  | .absent => .ok ((default home).override o)
  | .unreadable problem => .error (.unreadable path problem)
  | .content t =>
    match ofFile? home t with
    | some s => .ok (s.override o)
    | none => .error (.malformed path)

end Settings

end Notebook
