import Notebook.Store.Rows

/-! # The sheet of a store

A store is kept in a file as a sheet of lines. The first names the columns of the records in which
nothing may repeat, and each of the others is a row: the name of its table, and its cells. Tabs stand
between the parts of a line.
-/

namespace Notebook.Sheet

/-! ## Texts in a line -/

def escapedChar (c : Char) : Text :=
  if c = '\\' then ['\\', '\\']
  else if c = '\n' then ['\\', 'n']
  else if c = '\t' then ['\\', 't']
  else [c]

def escape (t : Text) : Text := t.flatMap escapedChar

def unescapedChar? (c : Char) : Option Char :=
  if c = '\\' then some '\\' else if c = 'n' then some '\n' else if c = 't' then some '\t' else none

def unescape? : Text → Option Text
  | [] => some []
  | [c] => if c = '\\' then none else some [c]
  | c :: d :: rest =>
    if c = '\\' then do return (← unescapedChar? d) :: (← unescape? rest)
    else (unescape? (d :: rest)).map (c :: ·)

theorem unescape?_cons {c : Char} (h : c ≠ '\\') (t : Text) :
    unescape? (c :: t) = (unescape? t).map (c :: ·) := by
  cases t with
  | nil => simp [unescape?, h]
  | cons d rest => simp [unescape?, h]

theorem unescape?_escape (t : Text) : unescape? (escape t) = some t := by
  induction t with
  | nil => rfl
  | cons c rest ih =>
    rw [escape, List.flatMap_cons, ← escape]
    by_cases h₁ : c = '\\'
    · simp [escapedChar, unescape?, unescapedChar?, h₁, ih]
    by_cases h₂ : c = '\n'
    · simp [escapedChar, unescape?, unescapedChar?, h₂, ih]
    by_cases h₃ : c = '\t'
    · simp [escapedChar, unescape?, unescapedChar?, h₃, ih]
    have plain : escapedChar c = [c] := by simp [escapedChar, h₁, h₂, h₃]
    rw [plain, List.singleton_append, unescape?_cons h₁, ih]
    rfl

/-! ## Cells -/

/-- A letter for the kind of a cell, and its value. A byte of a blob is written as the character of its
number. -/
def cellText : Cell → Text
  | .null => []
  | .integer n => 'i' :: Cell.intText n
  | .real x => 'r' :: x.plain
  | .text t => 't' :: escape t
  | .blob bytes => 'b' :: escape (bytes.map fun b => Char.ofNat b.toNat)

def readCell? : Text → Option Cell
  | [] => some .null
  | 'i' :: t =>
    match Numeral.scan? t with
    | some (n, []) => some (.integer n.toInt)
    | _ => none
  | 'r' :: t => (Double.ofText? t).map Cell.ofNumber
  | 't' :: t => (unescape? t).map .text
  | 'b' :: t => (unescape? t).map fun t => .blob (t.map fun c => c.toNat.toUInt8)
  | _ => none

/-! ## Rows -/

def columnsName : Text := "unique".toList

def rowText (table : String) (cells : List Cell) : Text :=
  Text.joined ['\t'] (table.toList :: cells.map cellText)

def addRow? (s : Store) (line : Text) : Option Store :=
  match line.pieces (· = '\t') with
  | [table, a, b, c] => do
    let a ← readCell? a
    let b ← readCell? b
    let c ← readCell? c
    if table = "record".toList then return s.withRecord a b c
    else if table = "tag".toList then return s.withTag a b c
    else if table = "config".toList then return s.withConfig a b c
    else none
  | _ => none

/-! ## Sheets -/

def written (s : Store) : Text :=
  let unique := (if s.uniquePaths then [UniqueColumn.path.name] else [])
    ++ if s.uniqueTexts then [UniqueColumn.text.name] else []
  Text.ofLines <| Text.joined ['\t'] (columnsName :: unique)
    :: s.records.map (fun r => rowText "record" [.integer r.id, r.path, r.text])
    ++ s.tags.map (fun r => rowText "tag" [r.id, r.name, r.value])
    ++ s.config.map fun r => rowText "config" [r.category, r.name, r.value]

def read? (t : Text) : Option Store :=
  match t.pieces (· = '\n') with
  | [] => none
  | first :: rows =>
    match first.pieces (· = '\t') with
    | [] => none
    | name :: unique =>
      if name = columnsName then
        (rows.filter (· ≠ [])).foldlM addRow?
          (Store.empty (UniqueColumn.path.name ∈ unique) (UniqueColumn.text.name ∈ unique))
      else none

end Notebook.Sheet
