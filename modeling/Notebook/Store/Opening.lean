import Notebook.Store.Hold
import Notebook.Store.Tables

/-! # Opening a store -/

namespace Notebook

inductive StorePlace where
  /-- Nothing, and a new store can be made. -/
  | vacant
  | store (s : Store)
  /-- A directory, a file of another kind, or no place at all. -/
  | unusable

def StorePlace.openStore (place : StorePlace) (hold : Hold) : Except Failure Store :=
  match place with
  | vacant => hold.reading (.ok .fresh)
  | store s => hold.reading (.ok s)
  | unusable => .error .database

def storeFileName : Text := "notes.sqlite3".toList

def archiveFileName : Text := "archive.nparch".toList

end Notebook
