import Notebook.Failure
import Notebook.Query.Selection
import Notebook.Store.Tables

/-! # The engine of the store

The tables are kept by an engine, which runs any text that was saved as a query. The queries that requests make
are understood here, and so are most search expressions. What the engine makes of all else is left open; texts that
begin or end a transaction are not told apart from others that write.
-/

namespace Notebook

/-! ## Statements -/

inductive StatementFault where
  | refused
  | violation (reason : Text)
  deriving DecidableEq, Repr

def StatementFault.failure : StatementFault → Failure
  | refused => .database
  | violation reason => .integrityViolation reason

/-- What a text tells the engine to do. It is answered by the first cells of some rows. -/
inductive Statement where
  | refused
  | reading (cells? : Store → Option (List Cell))
  /-- The tables may be changed, even if the statement fails. -/
  | writing (change : Store → Store × Except StatementFault (List Cell))

class Engine where
  /-- What a text says that is no query of a request. -/
  statement : Text → Statement
  /-- The test of an expression that cannot be cut into pieces, unless it is refused. -/
  test? : Text → Option (Text → Bool)

/-! ## A plain engine -/

def readEmptying? (t : Text) : Option (Store → Store) :=
  match queryTokens? t with
  | some [.word a, .word b, .word table] =>
    if !isWord "delete" a || !isWord "from" b then none
    else if isWord "records" table then some fun s => s.deleteRecords (s.records.map RecordRow.id)
    else if isWord "tags" table then some fun s => { s with tags := [] }
    else if isWord "config" table then some fun s => { s with config := [] }
    else none
  | _ => none

/-- An engine that can empty tables, and refuses everything else that is left to it. -/
instance Engine.plain : Engine where
  statement t :=
    match readEmptying? t with
    | some change => .writing fun s => (change s, .ok [])
    | none => .refused
  test? _ := none

end Notebook
