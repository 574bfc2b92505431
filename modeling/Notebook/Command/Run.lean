import Notebook.Command.Help
import Notebook.Json
import Notebook.Page.Reading
import Notebook.Readable
import Notebook.Settings
import Notebook.Store.Location
import Notebook.Store.Saving
import Notebook.Store.Searching

/-! # Running the command

A run reads its settings, makes the directories that it needs, opens the store, saves the notes of
files, removes a saved query, and searches, as far as its arguments ask for it. It stops at the first
problem, and what it did before stays.
-/

namespace Notebook

/-! ## What a run starts from and ends with -/

structure Invocation where
  folder : Folder
  home : Text
  /-- The path of the settings file, if it is not the usual one. -/
  settingsPath : Option Text
  overrides : Settings.Overrides
  stamp : Text

/-- What is only known where the run takes place. -/
inductive Fact where
  | databaseSize
  | databaseModified
  | searchTime
  | searchDuration
  deriving DecidableEq, Repr

def Fact.label : Fact → Text
  | databaseSize => "DATABASE SIZE:".toList
  | databaseModified => "DATABASE MODIFIED:".toList
  | searchTime => "WHEN SEARCHED:".toList
  | searchDuration => "SEARCH DURATION:".toList

inductive Output where
  | line (t : Text)
  | fact (f : Fact)
  /-- What the engine of the store tells about itself. -/
  | engine
  deriving DecidableEq, Repr

inductive RunProblem where
  | settings (p : Settings.Problem)
  | dataDirectory (p : FileProblem)
  | directory (path : Text) (p : FileProblem)
  | opening (path : Text) (e : Failure)
  | reading (file : Text) (e : Failure)
  | saving (e : Failure)
  | store (e : Failure)
  deriving DecidableEq, Repr

def Failure.chain : Failure → Text
  | file problem => (Failure.file problem).message ++ ": ".toList ++ problem.message
  | e => e.message

def RunProblem.message : RunProblem → Text
  | settings (.unreadable path p) =>
    (Settings.Problem.unreadable path p).message ++ ": ".toList ++ p.message
  | settings p => p.message
  | dataDirectory p => "Failed to create data directory: ".toList ++ p.message
  | directory path p => "Failed to create directory ".toList ++ path ++ ": ".toList ++ p.message
  | opening path e => "Failed to open database ".toList ++ path ++ ": ".toList ++ e.chain
  | reading file e => "Failed to read notes from ".toList ++ file ++ ": ".toList ++ e.chain
  | saving e => "Failed to save notes: ".toList ++ e.chain
  | store e => e.chain

structure Outcome where
  exitCode : Nat
  output : List Output
  problem : Option RunProblem
  notices : List Notice
  folder : Folder

/-! ## Steps -/

structure RunState where
  folder : Folder
  output : List Output
  notices : List Notice

/-- A step may end the run, and what was done before is still seen. -/
abbrev Run := ExceptT RunProblem (StateM RunState)

namespace Run

def print (t : Text) : Run Unit := modify fun st => { st with output := st.output ++ [.line t] }

def printPart (o : Output) : Run Unit := modify fun st => { st with output := st.output ++ [o] }

def notify (ns : List Notice) : Run Unit := modify fun st => { st with notices := st.notices ++ ns }

def orStop {ε α : Type} (problem : ε → RunProblem) (x : Except ε α) : Run α :=
  match x with
  | .ok a => pure a
  | .error e => throw (problem e)

def changeFolder (problem : FileProblem → RunProblem) (change : Folder → Except FileProblem Folder) :
    Run Unit := do
  let folder ← orStop problem (change (← get).folder)
  modify fun st => { st with folder := folder }

/-! ## Settings and directories -/

def settingsPath (i : Invocation) : Text :=
  i.settingsPath.getD (FilePath.joined (Settings.defaultDirectory i.home) "config.toml".toList)

def settingsSource (folder : Folder) (path : Text) : Settings.Source :=
  match folder.find? path with
  | none => .absent
  | some (.file content) =>
    match Utf8.decode? content with
    | some t => .content t
    | none => .unreadable .notUtf8
  | some .directory => .unreadable .isDirectory
  | some (.store _) => .unreadable .notUtf8

def loadSettings (i : Invocation) : Run Settings :=
  let path := settingsPath i
  orStop .settings (Settings.load i.home path (settingsSource i.folder path) i.overrides)

def ensureDirectories (s : Settings) : Run Unit := do
  changeFolder .dataDirectory (·.ensureDirectory s.dataDirectory)
  for path in [s.databasePath, s.archivePath] do
    match FilePath.parent? path with
    | none => pure ()
    | some around => changeFolder (.directory around) (·.ensureDirectory around)

/-! ## The store -/

structure OpenStore where
  /-- Where it is kept, if it is. -/
  place : Option FilePlace
  hold : Hold
  store : Store

/-- Puts a store in its place, unless it ends with the run. -/
def keepStore (o : OpenStore) : Run Unit :=
  match o.place with
  | none => pure ()
  | some place => modify fun st => { st with folder := st.folder.put place (.store o.store) }

def changeStore (o : OpenStore) (s : Store) : Run OpenStore := do
  keepStore { o with store := s }
  return { o with store := s }

def openStore (path : Text) : Run OpenStore := do
  let location := (← get).folder.locateStore path
  let s ← orStop (.opening path) (location.found.openStore .free)
  changeStore ⟨location.place, location.hold, s⟩ s

/-! ## Telling about the store -/

def ruler : Text := List.replicate 50 '─'

def diagnose (i : Invocation) (s : Settings) : Run Unit := do
  print "notepath Doctor".toList
  print ruler
  print []
  let path := settingsPath i
  if (← get).folder.holds path then print ("  Config file: ✓ ".toList ++ path)
  else print "  Config file: ○ not found (using defaults)".toList
  if (← get).folder.holds s.archivePath then print ("  Archive: ✓ ".toList ++ s.archivePath)
  else print ("  Archive: ○ not written yet ".toList ++ s.archivePath)
  let o ← tryCatch (openStore s.databasePath) fun problem => do
    print ("  Database: ✗ ".toList ++ problem.message)
    throw problem
  print ("  Database: ✓ ".toList ++ s.databasePath)
  print ("  Notes: ".toList ++ Nat.toDigits 10 (← orStop .store (o.store.countNotes o.hold)))
  let names ← orStop .store (o.store.queryNames o.hold)
  print ("  Saved queries: ".toList ++ Nat.toDigits 10 names.length)
  print []
  printPart .engine

def listQueries (o : OpenStore) : Run Unit := do
  let names ← orStop .store (o.store.queryNames o.hold)
  print "QUERIES SAVED:".toList
  for name in names do
    print ("- \"".toList ++ name ++ ['"'])
  if names.length = 1 then print "One query".toList
  else print (Nat.toDigits 10 names.length ++ " queries".toList)

/-! ## Saving -/

def pageFile (folder : Folder) (path : Text) : PageFile :=
  match folder.locate path with
  | .error .missing => .missing
  | .error problem => .closed problem
  | .ok place =>
    match folder.at? place with
    | none => .missing
    | some .directory => .directory
    | some (.file content) => .bytes content
    | some (.store _) => .bytes [0xFF]

def readFiles (s : Settings) (quiet : Bool) : Nat → Notes → List Text → Run Notes
  | _, notes, [] => return notes
  | number, notes, file :: rest => do
    if !quiet then print (Nat.toDigits 10 number ++ ".  ".toList ++ file)
    let reading := gatherFile file (pageFile (← get).folder file) s.suppressDuplicateWarnings notes
    notify reading.notices
    match reading.failure with
    | some e => throw (.reading file e)
    | none => readFiles s quiet (number + 1) reading.notes rest

def reportLine (r : Report) : Text :=
  "✓ ".toList ++ Nat.toDigits 10 r.total ++ " saved (".toList ++ Nat.toDigits 10 r.inserted ++ " new, ".toList
    ++ Nat.toDigits 10 r.merged ++ " merged, ".toList ++ Nat.toDigits 10 r.replaced ++ " replaced, ".toList
    ++ Nat.toDigits 10 r.deleted ++ " deleted, ".toList ++ Nat.toDigits 10 r.archived ++ " archived)".toList

def saveFiles (i : Invocation) (s : Settings) (a : Arguments) (o : OpenStore) : Run OpenStore := do
  if !a.json then print "SAVING NOTES INTO DATABASE FROM FILES:".toList
  let notes ← readFiles s a.json 1 .empty a.saveFiles
  let around : Surroundings := ⟨o.hold, (← get).folder.appendProblem? s.archivePath, i.stamp⟩
  let saved := o.store.save around notes
  notify saved.notices
  if saved.archived ≠ [] then
    modify fun st => { st with folder := st.folder.append s.archivePath saved.archived }
  let changed ← changeStore o saved.store
  let report ← orStop .saving saved.result
  if !a.json then
    print (reportLine report)
    print []
  return changed

/-! ## Searching -/

def removeQuery (o : OpenStore) (name : Text) : Run OpenStore := do
  let changed := o.store.removeQuery o.hold name
  let removed ← orStop .store changed.result
  notify [if removed then .queryRemoved name else .noSuchQuery name]
  changeStore o changed.store

def factWidth : Nat := 19

def countLine (label : String) (n : Nat) : Text := Text.padded factWidth label.toList ++ groupThousands n

def printNotes (a : Arguments) (notes : Notes) : Run Unit := do
  for n in notes.inPathOrder do
    if a.pathsOnly then print n.path else print n.written

def search [Engine] (a : Arguments) (o : OpenStore) : Run Unit := do
  let found := o.store.search o.hold a.request
  notify found.notices
  let _ ← changeStore o found.store
  let notes ← orStop .store found.result
  if a.json then
    let items : List Json := notes.inPathOrder.map fun n => if a.pathsOnly then .text n.path else n.toJson
    print ((Json.array items).indented 0)
  else
    if a.request.summary = [] then print "NO SEARCH WAS MADE.".toList
    else
      print a.request.summary
      print []
      printPart (.fact .databaseSize)
      printPart (.fact .databaseModified)
      printPart (.fact .searchTime)
      printPart (.fact .searchDuration)
      print (countLine "NOTES FOUND:" notes.size)
      print (countLine "WORD COUNT:" notes.wordCount)
      print []
    printNotes a notes

/-! ## Whole runs -/

def execute [Engine] (i : Invocation) (a : Arguments) : Run Unit := do
  let s ← loadSettings i
  ensureDirectories s
  if a.database then diagnose i s
  else
    let o ← openStore s.databasePath
    if a.listQueries then listQueries o
    else
      let o ← if a.saveFiles = [] then pure o else saveFiles i s a o
      let o ← match a.removeQuery with
        | none => pure o
        | some name => removeQuery o name
      search a o

end Run

/-- A run of the command. Arguments that cannot be understood are answered by `none`. -/
def runCommand [Engine] (i : Invocation) (args : List Text) : Option Outcome :=
  match Arguments.read args with
  | .error .help => some ⟨0, helpLines.map .line, none, [], i.folder⟩
  | .error .version => some ⟨0, [.line versionLine], none, [], i.folder⟩
  | .error _ => none
  | .ok a =>
    match (Run.execute i a).run.run ⟨i.folder, [], []⟩ with
    | (.ok (), st) => some ⟨0, st.output, none, st.notices, st.folder⟩
    | (.error p, st) => some ⟨1, st.output, some p, st.notices, st.folder⟩

end Notebook
