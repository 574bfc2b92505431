import Notebook.Archive
import Notebook.Notice
import Notebook.Store.Assembly

/-! # Saving notes

Notes are saved in the order of their paths, each as its directive says. What is stored at a path is
copied to the archive before it is changed or deleted. The tables are kept as they were if saving fails,
but for one failure: an `add` at a path in use keeps what was saved before it. The archive is never
taken back.
-/

namespace Notebook

/-! ## Surroundings -/

structure Surroundings where
  hold : Hold
  archiveProblem : Option FileProblem
  /-- The time, as it is written in the archive. -/
  stamp : Text
  deriving DecidableEq, Repr

/-! ## A batch -/

structure Batch where
  store : Store
  /-- What has been added to the archive. -/
  archived : Text
  report : Report
  notices : List Notice

/-- A step of a batch may fail, and what it did before that is still seen. -/
abbrev Saving := ExceptT Failure (StateM Batch)

namespace Saving

def reading {α : Type} (around : Surroundings) (read : Store → Except Failure α) : Saving α := do
  liftExcept (around.hold.reading (read (← get).store))
where
  liftExcept {β : Type} (x : Except Failure β) : Saving β :=
    match x with
    | .ok b => pure b
    | .error e => throw e

def writing (around : Surroundings) (write : Store → Except Failure Store) : Saving Unit := do
  if around.hold.canWrite then
    match write (← get).store with
    | .ok s => modify ({ · with store := s })
    | .error e => throw e
  else throw around.hold.writeFailure

def count (r : Report) : Saving Unit := modify fun b => { b with report := b.report.add r }

def notify (n : Notice) : Saving Unit := modify fun b => { b with notices := b.notices ++ [n] }

def archive (around : Surroundings) (notes : Notes) : Saving Unit := do
  if notes.size ≠ 0 then
    match around.archiveProblem with
    | some problem => throw (.file problem)
    | none => modify fun b => { b with archived := b.archived ++ archiveText notes around.stamp }

/-- Archives and deletes what is stored at a path. -/
def take (around : Surroundings) (path : Text) : Saving (Option Note) := do
  let ids ← reading around fun s => .ok (s.idsAt path)
  if ids = [] then return none
  else
    let notes ← reading around fun s => s.notesOf ids
    archive around notes
    count { Report.zero with archived := notes.size }
    writing around fun s => .ok (s.delete ids)
    return notes.get? path

def insert (around : Surroundings) (n : Note) : Saving Unit := writing around fun s => s.insert n

/-! ## Directives -/

def insertOrMerge (around : Surroundings) (n : Note) : Saving Unit := do
  match ← take around n.path with
  | none =>
    insert around n
    count { Report.zero with inserted := 1 }
  | some stored =>
    match stored.merge n with
    | .ok merged =>
      insert around merged
      count { Report.zero with merged := 1 }
    | .error e => throw e

def replace (around : Surroundings) (n : Note) : Saving Unit := do
  match ← take around n.path with
  | none => count { Report.zero with inserted := 1 }
  | some _ => count { Report.zero with replaced := 1 }
  insert around n

def addOnly (around : Surroundings) (n : Note) : Saving Unit := do
  let ids ← reading around fun s => .ok (s.idsAt n.path)
  if ids ≠ [] then throw (.duplicatePath n.path)
  insert around n
  count { Report.zero with inserted := 1 }

def delete (around : Surroundings) (path : Text) : Saving Unit := do
  match ← take around path with
  | none => return
  | some _ => count { Report.zero with deleted := 1 }

/-- Saves a note under another path, with what is stored there. -/
def rename (around : Surroundings) (n : Note) (path : Text) : Saving Unit := do
  let _ ← take around n.path
  count { Report.zero with renamed := 1 }
  insertOrMerge around { n with path := path }

/-- Saves a note as its directive says. A directive that is not known replaces. -/
def save (around : Surroundings) (n : Note) : Saving Unit :=
  let plain := { n with directive := .insert }
  match n.directive with
  | .insert | .merge => insertOrMerge around plain
  | .replace => replace around plain
  | .addOnly => addOnly around plain
  | .delete => delete around n.path
  | .rename path => rename around plain path
  | .unknown text => do
    notify (.unknownDirective n.path text)
    replace around plain

def saveAll (around : Surroundings) : List Note → Saving Unit
  | [] => return
  | n :: rest => do
    save around n
    saveAll around rest

end Saving

/-! ## Outcomes -/

structure Saved where
  store : Store
  /-- What was added to the archive. -/
  archived : Text
  notices : List Notice
  result : Except Failure Report

def Store.save (s : Store) (around : Surroundings) (notes : Notes) : Saved :=
  match (Saving.saveAll around notes.inPathOrder).run.run ⟨s, [], .zero, []⟩ with
  | (.ok (), b) => ⟨b.store, b.archived, b.notices ++ [.notesSaved b.report], .ok b.report⟩
  | (.error (.duplicatePath path), b) => ⟨b.store, b.archived, b.notices, .error (.duplicatePath path)⟩
  | (.error e, b) => ⟨s, b.archived, b.notices, .error e⟩

/-- Saves a batch whose tables may not be let go in the end, as when another program still reads them: then
they are taken back. -/
def Store.saveAndCommit (s : Store) (around : Surroundings) (notes : Notes) (refusal : Option Failure) : Saved :=
  let saved := s.save around notes
  match saved.result, refusal with
  | .ok _, some e => ⟨s, saved.archived, saved.notices.dropLast, .error e⟩
  | .error (.duplicatePath _), some e => ⟨s, saved.archived, saved.notices, .error e⟩
  | _, _ => saved

end Notebook
