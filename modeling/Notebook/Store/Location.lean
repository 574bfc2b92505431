import Notebook.Folder
import Notebook.Store.Address
import Notebook.Store.Opening

/-! # Where a store is kept

The path of a store is walked by its names alone: `..` takes back the name before it, even one that leads
nowhere, and slashes at the end do not count. Beside the store there must be room for its journal.
-/

namespace Notebook

structure StoreLocation where
  /-- A store that ends with the run has no place. -/
  place : Option FilePlace
  found : StorePlace
  hold : Hold

namespace StoreLocation

def nowhere : StoreLocation := ⟨none, .unusable, .free⟩

end StoreLocation

namespace Folder

/-! ## Places -/

def placeSize (place : FilePlace) : Nat := place.foldl (fun n name => n + Utf8.size name + 1) 0

/-- The greatest size of a place that is passed on the way to a store. -/
def greatestPassed : Nat := 511

def greatestStorePlace : Nat := 504

/-- Goes on by a name. Nothing need be there, but nothing may be there that cannot hold the name. -/
def pass? (f : Folder) (place : FilePlace) (name : Text) : Option FilePlace :=
  if name = [] || name = ['.'] then some place
  else if name = ['.', '.'] then some place.dropLast
  else if placeSize (place ++ [name]) > greatestPassed then none
  else match f.walk [] (place ++ [name]) with
    | .ok _ | .error .missing => some (place ++ [name])
    | .error _ => none

/-- The place of the journal that is kept while a store is written. -/
def journalPlace (place : FilePlace) : FilePlace :=
  place.dropLast ++ [place.getLast?.getD [] ++ "-journal".toList]

def storePlace? (f : Folder) (path : Text) : Option FilePlace := do
  let place ← (FilePath.parts path).foldlM f.pass? (f.start path)
  if place = [] || placeSize place > greatestStorePlace then none
  else match f.walk [] (journalPlace place) with
    | .ok _ => some place
    | .error _ => none

/-! ## Stores -/

/-- What is found where a store should be; an empty file can become a store. -/
def storeAt (f : Folder) (place : FilePlace) (access : StoreAccess) : StorePlace :=
  match f.at? place with
  | none => if access = .making then .vacant else .unusable
  | some (.file []) => if access = .reading then .unusable else .vacant
  | some (.store s) => .store s
  | some _ => .unusable

def locateStore (f : Folder) (address : Text) : StoreLocation :=
  match StoreAddress.read? address with
  | none => .nowhere
  | some (.temporary canWrite) => ⟨none, if canWrite then .vacant else .unusable, .free⟩
  | some (.file path access) =>
    match f.storePlace? path with
    | none => .nowhere
    | some place => ⟨some place, f.storeAt place access, if access = .reading then .readOnly else .free⟩

end Folder

end Notebook
