import Notebook.Notes
import Notebook.Store.Hold
import Notebook.Store.Tables

/-! # Notes from rows

Rows of records that share a path make one note, their texts set off by an empty line.
-/

namespace Notebook

namespace Cell

def asText : Cell → Except Failure Text
  | text t => .ok t
  | _ => .error .database

def asText? : Cell → Except Failure (Option Text)
  | null => .ok none
  | text t => .ok (some t)
  | _ => .error .database

end Cell

namespace Store

/-- The text of a record after those of earlier records of its note. -/
def addText (n : Note) (t : Text) : Note :=
  if n.lines = [] then n.setText t else n.setText (n.text ++ '\n' :: t)

def addRecordTo (notes : Notes) (r : RecordRow) : Except Failure Notes := do
  let path ← r.path.asText
  let text ← r.text.asText?
  let n := (notes.get? path).getD (Note.blank path)
  return notes.put path (addText n (text.getD []))

def addTagRowTo (path : Text) (notes : Notes) (row : TagRow) : Except Failure Notes := do
  match ← row.name.asText? with
  | none => return notes
  | some name =>
    match notes.get? path with
    | none => return notes
    | some n =>
      match row.value.value? with
      | none => return notes.put path { n with tags := Note.addTo n.tags name }
      | some value => return notes.put path (n.addField (name, value))

def addTagsTo (s : Store) (notes : Notes) (r : RecordRow) : Except Failure Notes := do
  let path ← r.path.asText
  (s.tags.filter (TagRow.isOf [r.id])).foldlM (addTagRowTo path) notes

/-- The notes of the records with some ids, in order of the ids. -/
def notesOf (s : Store) (ids : List Int) : Except Failure Notes := do
  let rows := s.records.filter fun r => r.id ∈ ids
  let notes ← rows.foldlM addRecordTo Notes.empty
  rows.foldlM (addTagsTo s) notes

/-! ## Reading the store -/

def idsAtAll (s : Store) (hold : Hold) (paths : List Text) : Except Failure (List Int) := do
  return (← paths.mapM fun path => hold.reading (.ok (s.idsAt path))).flatten

/-- The notes at some paths; without paths nothing is read. -/
def notesAt (s : Store) (hold : Hold) (paths : List Text) : Except Failure Notes := do
  s.notesOf (← s.idsAtAll hold paths)

def noteAt? (s : Store) (hold : Hold) (path : Text) : Except Failure (Option Note) :=
  (s.notesAt hold [path]).map (·.get? path)

def countNotes (s : Store) (hold : Hold) : Except Failure Nat := hold.reading (.ok s.count)

end Store

end Notebook
