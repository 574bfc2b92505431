import Notebook.Notice
import Notebook.Pattern.Matching
import Notebook.Pattern.Reading
import Notebook.Query.Request
import Notebook.Query.Selection
import Notebook.Store.Assembly
import Notebook.Store.Engine

/-! # Searching the store -/

namespace Notebook

/-! ## Conditions on rows -/

/-- The test that an expression puts to a text, unless the expression is refused. What is not read here, such as
classes by property and the flags `x`, `R` and `-u`, is left to the engine. -/
def expressionTest? [Engine] (pattern : Text) : Option (Text → Bool) :=
  if (patternPieces? pattern).isSome then (Pattern.read? pattern).map Pattern.isIn else Engine.test? pattern

/-- The rows whose cells match an expression. Without rows to try the expression is not even read. -/
def matchingRows [Engine] {α : Type} (pattern : Text) (cell : α → Cell) (rows : List α) :
    Except Failure (List α) :=
  if rows = [] then .ok []
  else match expressionTest? pattern with
    | none => .error .database
    | some test => .ok (rows.filter fun row => (cell row).searched?.any test)

structure Changed (α : Type) where
  store : Store
  notices : List Notice
  result : Except Failure α

def Changed.after {α : Type} (notices : List Notice) (c : Changed α) : Changed α :=
  { c with notices := notices ++ c.notices }

namespace Store

variable [Engine]

def named (s : Store) (name : Text) : List TagRow := s.tags.filter fun row => row.name = .text name

/-- The records that meet a condition; all of them without one. -/
def recordsMeeting (s : Store) : Option Condition → Except Failure (List RecordRow)
  | none => .ok s.records
  | some (.path pattern) => matchingRows pattern RecordRow.path s.records
  | some (.text pattern) => matchingRows pattern RecordRow.text s.records
  | some _ => .error .database

def tagsMeeting (s : Store) : Option Condition → Except Failure (List TagRow)
  | none => .ok s.tags
  | some (.tag name) => .ok ((s.named name).filter fun row => row.value = .null)
  | some (.compare name op value) => .ok ((s.named name).filter fun row => row.value.meets op (.ofOperand value))
  | some (.matching name pattern) => matchingRows pattern TagRow.value (s.named name)
  | some _ => .error .database

def recordCell (r : RecordRow) : Column → Cell
  | .path => r.path
  | .text => r.text
  | _ => .integer r.id

def tagCell (row : TagRow) : Column → Cell
  | .name => row.name
  | .value => row.value
  | _ => row.id

def selected (s : Store) (sel : Selection) : Except Failure (List Cell) :=
  match sel.table with
  | .records => (s.recordsMeeting sel.condition).map fun rows => rows.map (recordCell · sel.column)
  | .tags => (s.tagsMeeting sel.condition).map fun rows => rows.map (tagCell · sel.column)

/-! ## Queries -/

def intersection (a b : List Cell) : List Cell := a.filter fun c => b.any (c.same ·)

def selectedByAll (s : Store) : List Selection → Except Failure (List Cell)
  | [] => .ok []
  | sel :: rest => do
    let first ← s.selected sel
    rest.foldlM (fun cells sel => return intersection cells (← s.selected sel)) first

def asIds (cells : List Cell) : Except Failure (List Int) :=
  cells.mapM fun
    | .integer n => .ok n
    | _ => .error .database

end Store

/-- What a text says. A query of a request is refused if it has too many selections, and so is any text with a NUL. -/
def Statement.ofText [Engine] (t : Text) : Statement :=
  match readQuery? t with
  | some selections => .reading fun s => (s.selectedByAll selections).toOption
  | none => if '\x00' ∈ t || (readStatement? t).isSome then .refused else Engine.statement t

namespace Store

/-- Runs a statement: what it leaves of the store, and its answer. -/
def run (s : Store) (hold : Hold) : Statement → Store × Except Failure (List Cell)
  | .refused => (s, .error .database)
  | .reading cells? => (s, hold.reading ((cells? s).elim (.error .database) .ok))
  | .writing change =>
    if hold.canWrite then ((change s).1, (change s).2.mapError StatementFault.failure)
    else (s, .error hold.writeFailure)

variable [Engine]

/-- Runs a text, which is to select ids, and finds their notes. A blank text is not run. -/
def perform (s : Store) (hold : Hold) (query : Text) : Changed Notes :=
  if query.isBlank then ⟨s, [], .ok .empty⟩
  else
    let (after, cells) := s.run hold (.ofText query)
    ⟨after, [], do after.notesOf (← asIds (← cells))⟩

def runQuery (s : Store) (hold : Hold) (query : Text) : Except Failure Notes := (s.perform hold query).result

/-! ## Saved queries -/

def queryCategory : Text := "queries".toList

def isQueryRow (row : ConfigRow) : Bool := row.category = .text queryCategory

def isQueryNamed (name : Text) (row : ConfigRow) : Bool := isQueryRow row && row.name = .text name

def savedQuery? (s : Store) (hold : Hold) (name : Text) : Except Failure (Option Text) :=
  hold.reading <|
    match s.config.find? (isQueryNamed name.trim) with
    | none => .ok none
    | some row => row.value.asText.map some

def queryNames (s : Store) (hold : Hold) : Except Failure (List Text) :=
  hold.reading do
    let names ← (s.config.filter isQueryRow).mapM fun row => row.name.asText
    return sortByKey id names

/-- Saves a query in place of any of that name. A blank name or query is not saved. -/
def saveQuery (s : Store) (hold : Hold) (name query : Text) : Changed Unit :=
  if name.trim = [] || query.isBlank then ⟨s, [], .ok ()⟩
  else if !hold.canWrite then ⟨s, [], .error hold.writeFailure⟩
  else
    let others := s.config.filter fun row => !isQueryNamed name.trim row
    let row : ConfigRow := ⟨.text queryCategory, .text name.trim, .text query⟩
    ⟨{ s with config := others ++ [row] }, [.querySaved name.trim], .ok ()⟩

/-- Removes the query of a name; the answer is whether there was one. -/
def removeQuery (s : Store) (hold : Hold) (name : Text) : Changed Bool :=
  if !hold.canWrite then ⟨s, [], .error hold.writeFailure⟩
  else
    let others := s.config.filter fun row => !isQueryNamed name.trim row
    ⟨{ s with config := others }, [], .ok (s.config.any (isQueryNamed name.trim))⟩

def performSaved (s : Store) (hold : Hold) (name : Text) : Changed Notes :=
  match s.savedQuery? hold name with
  | .ok (some query) => s.perform hold query
  | .ok none => ⟨s, [], .error (.savedQueryNotFound name.trim)⟩
  | .error e => ⟨s, [], .error e⟩

def runSavedQuery (s : Store) (hold : Hold) (name : Text) : Except Failure Notes := (s.performSaved hold name).result

/-! ## Requests -/

/-- Finds the notes of a request, and saves its terms if it says so. A saved query takes the place of
the terms, which are then not read. -/
def search (s : Store) (hold : Hold) (r : Request) : Changed Notes :=
  match r.savedQuery with
  | some name => s.performSaved hold name
  | none =>
    let warnings := r.warnings.map Notice.badFieldTerm
    match r.saveAs with
    | none => (s.perform hold r.query).after warnings
    | some name =>
      if r.query = [] then (s.perform hold r.query).after (warnings ++ [.nothingToSave name])
      else
        let saved := s.saveQuery hold name r.query
        match saved.result with
        | .ok () => (saved.store.perform hold r.query).after (warnings ++ saved.notices)
        | .error e => ⟨saved.store, warnings ++ saved.notices, .error e⟩

end Store

end Notebook
