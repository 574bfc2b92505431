import Notebook.Command.Run
import Notebook.Store.Sheet
import Notebook.Timestamp
import Std.Time.Format

/-! # The command line

The files that a run can touch are read into a folder, the run is made on that folder, and what it
changed there is written back.
-/

namespace Notebook.CommandLine

/-! ## Files of a run -/

/-- The places that a path passes, and last the one that it leads to. -/
def passed (place : FilePlace) : List Text → List FilePlace
  | [] => [place]
  | part :: rest =>
    place ::
      if part = [] || part = ['.'] then passed place rest
      else if part = ['.', '.'] then passed place.dropLast rest
      else passed (place ++ [part]) rest

def settingsOf? (i : Invocation) : Option Settings :=
  let path := Run.settingsPath i
  (Settings.load i.home path (Run.settingsSource i.folder path) i.overrides).toOption

def storePaths (s : Settings) : List Text :=
  match StoreAddress.read? s.databasePath with
  | some (.file path _) => [path]
  | _ => []

/-- The paths that a run can touch when its settings are known. -/
def touched (i : Invocation) (args : List Text) : List Text :=
  let data := match settingsOf? i with
    | some s => [s.dataDirectory, s.databasePath, s.archivePath] ++ storePaths s
    | none => []
  let pages := match Arguments.read args with
    | .ok a => a.saveFiles
    | .error _ => []
  data ++ pages

def diskPath (place : FilePlace) : String := String.ofList ('/' :: Text.joined ['/'] place)

/-- A file that holds the sheet of a store is that store. -/
def entryOf (content : List UInt8) : Entry :=
  match (Utf8.decode? content).bind Sheet.read? with
  | some s => .store s
  | none => .file content

def contentOf? : Entry → Option (List UInt8)
  | .directory => none
  | .file content => some content
  | .store s => some (Utf8.encode (Sheet.written s))

def look (place : FilePlace) : IO (Option Entry) := do
  try
    match (← (System.mkFilePath [diskPath place]).metadata).type with
    | .dir => return some .directory
    | _ => return some (entryOf (← IO.FS.readBinFile (diskPath place)).toList)
  catch _ => return none

def gather (f : Folder) (paths : List Text) : IO Folder := do
  let places := paths.flatMap fun path => passed (f.start path) (FilePath.parts path)
  places.foldlM (fun f place => do
    if (f.at? place).isSome then return f
    match ← look place with
    | some entry => return f.put place entry
    | none => return f) f

def writeBack (before after : Folder) : IO Unit :=
  after.entries.reverse.forM fun (place, entry) => do
    match contentOf? entry with
    | none =>
      if (before.at? place).isNone then IO.FS.createDirAll (diskPath place)
    | some content =>
      if (before.at? place).bind contentOf? ≠ some content then
        IO.FS.writeBinFile (diskPath place) ⟨content.toArray⟩

/-! ## The clock -/

/-- Seconds and nanoseconds since the start of 1970. -/
structure ClockTime where
  seconds : Int
  nanoseconds : Nat

def ClockTime.now : IO ClockTime := do
  let total := (← Std.Time.Timestamp.now).toNanosecondsSinceUnixEpoch.val
  return ⟨total.fdiv 1000000000, (total.fmod 1000000000).toNat⟩

def ClockTime.shown (t : ClockTime) (write : Moment → Text) : IO Text := do
  let rules ← Std.Time.Database.defaultGetLocalZoneRules
  let zone := rules.timezoneAt (Std.Time.Timestamp.ofSecondsSinceUnixEpoch ⟨t.seconds⟩)
  return ((Moment.ofUnix? (t.seconds + zone.offset.second.val) t.nanoseconds).map write).getD []

def ClockTime.secondsUntil (t u : ClockTime) : Double :=
  let milliseconds := ((u.seconds - t.seconds) * 1000000000 + u.nanoseconds - t.nanoseconds).tdiv 1000000
  Double.ofRatio (milliseconds < 0) milliseconds.natAbs 1000

def durationText (nanoseconds : Nat) : Text :=
  let parts := roundDiv .toEven nanoseconds 100000
  Nat.toDigits 10 (parts / 10000) ++ '.' :: zeroPadded 4 (parts % 10000) ++ " seconds".toList

/-! ## Printing -/

def ifThere (text : IO Text) : IO Text := do
  try text catch _ => return []

def factText (databasePath : String) (duration : Nat) : Fact → IO Text
  | .databaseSize => ifThere do return readableSize (← IO.FS.readBinFile databasePath).size
  | .databaseModified => ifThere do
    let modified := (← (System.mkFilePath [databasePath]).metadata).modified
    let t : ClockTime := ⟨modified.sec, modified.nsec.toNat⟩
    return (← t.shown Moment.journal) ++ " (".toList ++ readableAge (t.secondsUntil (← ClockTime.now)) ++ [')']
  | .searchTime => do (← ClockTime.now).shown Moment.journal
  | .searchDuration => return durationText duration

def outputLines (databasePath : String) (duration : Nat) : Output → IO Text
  | .line t => return t
  | .fact f => do return Text.padded Run.factWidth f.label ++ (← factText databasePath duration f)
  | .engine => return "Database engine: sheets of lines [version 1].".toList

/-! ## A run -/

def textEnv (name : String) : IO (Option Text) := return (← IO.getEnv name).map String.toList

def run (args : List Text) : IO UInt32 := do
  let here := (FilePath.parts (← IO.currentDir).toString.toList).filter (· ≠ [])
  let home := (← textEnv "HOME").getD []
  let overrides := ⟨← textEnv "NOTEPATH_DATABASE_PATH", ← textEnv "NOTEPATH_ARCHIVE_PATH"⟩
  let stamp ← (← ClockTime.now).shown Moment.stamp
  let start : Invocation := ⟨⟨[], here⟩, home, ← textEnv "NOTEPATH_CONFIG", overrides, stamp⟩
  let settled := { start with folder := ← gather start.folder [Run.settingsPath start] }
  let i := { settled with folder := ← gather settled.folder (touched settled args) }
  let started ← IO.monoNanosNow
  match runCommand i args with
  | none =>
    IO.eprintln "error: the arguments cannot be understood; --help tells about them"
    return 2
  | some o =>
    writeBack i.folder o.folder
    let duration := (← IO.monoNanosNow) - started
    let databasePath := ((settingsOf? i).map Settings.databasePath).getD []
    for n in o.notices do
      IO.eprintln (String.ofList n.line)
    for part in o.output do
      IO.println (String.ofList (← outputLines (String.ofList databasePath) duration part))
    if let some problem := o.problem then
      IO.eprintln ("error: " ++ String.ofList problem.message)
    return o.exitCode.toUInt32

end Notebook.CommandLine

def main (args : List String) : IO UInt32 := Notebook.CommandLine.run (args.map String.toList)
