import Notebook.Number.Numeral
import Notebook.Text.Utf8

/-! # Addresses of stores

A store is kept in a file, or it lasts only as long as the run. An address says which, either as a path or,
after `file:`, as a path with options: `file:notes?mode=ro`. In the path and the options `%` and two
hexadecimal digits write an octet.
-/

namespace Notebook

/-! ## Access -/

/-- What can be done with a store; every step allows more than the one before. -/
inductive StoreAccess where
  /-- A store that is there can be read. -/
  | reading
  | writing
  /-- The store can also be made. -/
  | making
  /-- The store is not kept, and all can be done with it. -/
  | memory
  deriving DecidableEq, Repr

namespace StoreAccess

def rank : StoreAccess → Nat
  | reading => 1
  | writing => 2
  | making => 3
  | memory => 4

def read? (t : Text) : Option StoreAccess :=
  if t = "ro".toList then some reading
  else if t = "rw".toList then some writing
  else if t = "rwc".toList then some making
  else if t = "memory".toList then some memory
  else none

end StoreAccess

inductive StoreAddress where
  /-- A store that ends with the run, and whether anything can be written to it. -/
  | temporary (canWrite : Bool)
  | file (path : Text) (access : StoreAccess)
  deriving DecidableEq, Repr

namespace StoreAddress

/-! ## Parts of an address -/

/-- The octets of a part. An octet of zero ends it. -/
def octets : Text → List UInt8
  | '%' :: a :: b :: rest =>
    match hexValue? [a, b] with
    | some 0 => []
    | some n => n.toUInt8 :: octets rest
    | none => '%'.toNat.toUInt8 :: octets (a :: b :: rest)
  | c :: rest => Utf8.encodeChar c ++ octets rest
  | [] => []

def decoded (part : Text) : Text := Utf8.decodeLossy (octets part)

def cut (p : Char → Bool) (t : Text) : Text × Text := (Text.cutAt? p t).getD (t, [])

/-- The options of an address, which are set off by `&`. Those without a name do not count. -/
def options (t : Text) : List (Text × Text) :=
  let named := (t.pieces (· = '&')).map fun part =>
    let (name, value) := cut (· = '=') part
    (decoded name, decoded value)
  named.filter (·.1 ≠ [])

/-- What follows the name of a machine, which can only be this one. -/
def afterMachine? (t : Text) : Option Text :=
  match Text.after? ['/', '/'] t with
  | none => some t
  | some rest =>
    let machine := rest.takeWhile (· ≠ '/')
    if machine = [] || machine = "localhost".toList then some (rest.dropWhile (· ≠ '/')) else none

/-! ## Options -/

def isYes (t : Text) : Bool :=
  if (t.head?.map Char.isDigit).getD false then digitsValue (t.takeWhile Char.isDigit) % 256 ≠ 0
  else t.map Char.toLower ∈ ["on", "yes", "true", "extra", "full"].map String.toList

/-- The access that the options ask for, from first to last. It can fall from one option to the next, and rise
only to a store in memory or from one. -/
def access? (access : StoreAccess) : List (Text × Text) → Option StoreAccess
  | [] => some access
  | (name, value) :: rest =>
    if name = "mode".toList then
      match StoreAccess.read? value with
      | some asked => if asked = .memory || asked.rank ≤ access.rank then access? asked rest else none
      | none => none
    else if name = "cache".toList && value ≠ "shared".toList && value ≠ "private".toList then none
    else access? access rest

def fileKeepers : List Text := ["unix", "unix-none", "unix-dotfile", "unix-excl"].map String.toList

def isKept? (options : List (Text × Text)) : Option Bool :=
  match options.reverse.lookup "vfs".toList with
  | none => some true
  | some keeper => if keeper ∈ fileKeepers then some true else if keeper = "memdb".toList then some false else none

/-! ## Reading -/

def isNoPath (path : Text) : Bool := path = [] || path = ":memory:".toList

/-- Reads what follows `file:`. What stands after `#` does not count. -/
def readOptions? (t : Text) : Option StoreAddress := do
  let t := (← afterMachine? t).takeWhile (· ≠ '#')
  let (name, optionText) := cut (· = '?') t
  let options := options optionText
  let access ← access? .making options
  let path := decoded name
  if isNoPath path || access = .memory || !(← isKept? options) then return .temporary (access ≠ .reading)
  let isFixed := ((options.lookup "immutable".toList).map isYes).getD false
  return .file path (if isFixed then .reading else access)

def read? (t : Text) : Option StoreAddress :=
  if '\x00' ∈ t then none
  else match Text.after? "file:".toList t with
    | some rest => readOptions? rest
    | none => some (if isNoPath t then .temporary true else .file t .making)

end StoreAddress

end Notebook
