import Notebook.Query.Literal

/-! # Conditions on the rows of the store

A condition is tested on the rows of one table, and a query asks for the ids of the rows that meet it.
-/

namespace Notebook

inductive Table where
  | records
  | tags
  deriving DecidableEq, Repr

def Table.name : Table → Text
  | records => "records".toList
  | tags => "tags".toList

/-! ## Comparisons -/

/-- The operators of comparisons, two of which have a second spelling. -/
inductive Comparison where
  | equal
  | doubleEqual
  | notEqual
  | lessGreater
  | less
  | lessEqual
  | greater
  | greaterEqual
  deriving DecidableEq, Repr

namespace Comparison

def all : List Comparison :=
  [equal, doubleEqual, notEqual, lessGreater, less, lessEqual, greater, greaterEqual]

def symbol : Comparison → Text
  | equal => ['=']
  | doubleEqual => ['=', '=']
  | notEqual => ['!', '=']
  | lessGreater => ['<', '>']
  | less => ['<']
  | lessEqual => ['<', '=']
  | greater => ['>']
  | greaterEqual => ['>', '=']

def ofSymbol? (t : Text) : Option Comparison := all.find? (·.symbol = t)

def holds (op : Comparison) (o : Ordering) : Bool :=
  match op with
  | equal | doubleEqual => o = .eq
  | notEqual | lessGreater => o ≠ .eq
  | less => o = .lt
  | lessEqual => o ≠ .gt
  | greater => o = .gt
  | greaterEqual => o ≠ .lt

end Comparison

def isOperatorChar (c : Char) : Bool := c = '=' || c = '!' || c = '<' || c = '>'

/-- What a value is compared with: a numeral, as written, or a text. -/
inductive Operand where
  | numeral (written : Text)
  | text (t : Text)
  deriving DecidableEq, Repr

def Operand.written : Operand → Text
  | numeral t => t
  | text t => literalOf t

/-! ## Conditions -/

inductive Condition where
  | path (pattern : Text)
  /-- The text of the record has a match. -/
  | text (pattern : Text)
  | tag (name : Text)
  | compare (name : Text) (op : Comparison) (value : Operand)
  /-- A field of that name has a value with a match. -/
  | matching (name pattern : Text)
  deriving DecidableEq, Repr

namespace Condition

def table : Condition → Table
  | path _ | text _ => .records
  | tag _ | compare _ _ _ | matching _ _ => .tags

def written : Condition → Text
  | path pattern => "path REGEXP ".toList ++ literalOf pattern
  | text pattern => "text REGEXP ".toList ++ literalOf pattern
  | tag name => "name = ".toList ++ literalOf name ++ " AND value IS NULL".toList
  | compare name op value =>
    "name = ".toList ++ literalOf name ++ " AND value ".toList ++ op.symbol ++ ' ' :: value.written
  | matching name pattern =>
    "name = ".toList ++ literalOf name ++ " AND value REGEXP ".toList ++ literalOf pattern

def query (c : Condition) : Text :=
  "SELECT id FROM ".toList ++ c.table.name ++ " WHERE ".toList ++ c.written

end Condition

/-- The query for the ids that meet every condition; empty without conditions. -/
def queryText (conditions : List Condition) : Text :=
  Text.joined " INTERSECT ".toList (conditions.map Condition.query)

end Notebook
