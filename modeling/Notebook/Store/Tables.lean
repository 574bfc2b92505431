import Notebook.Note
import Notebook.Store.Cell

/-! # The tables of the store

Records hold the paths and texts of notes, tags hold their tags and fields, and settings hold the saved
queries. A record's tags are the rows with its id; a row without a value is a tag, and one with a value
a field.
-/

namespace Notebook

/-! ## Rows -/

structure RecordRow where
  id : Int
  path : Cell
  text : Cell
  deriving DecidableEq, Repr

structure TagRow where
  id : Cell
  name : Cell
  value : Cell
  deriving DecidableEq, Repr

structure ConfigRow where
  category : Cell
  name : Cell
  value : Cell
  deriving DecidableEq, Repr

/-! ## Placing a record -/

/-- Puts a record in the place of its id; a record with an id in use is not kept. -/
def placeRecord (row : RecordRow) : List RecordRow → List RecordRow
  | [] => [row]
  | r :: rest =>
    if row.id < r.id then row :: r :: rest
    else if r.id < row.id then r :: placeRecord row rest
    else r :: rest

theorem mem_placeRecord {row r : RecordRow} {rows : List RecordRow} (h : r ∈ placeRecord row rows) :
    r = row ∨ r ∈ rows := by
  fun_induction placeRecord row rows with
  | case1 => simpa using h
  | case2 => simpa using h
  | case3 first rest _ _ ih =>
    rcases List.mem_cons.1 h with h | h
    · exact .inr (List.mem_cons.2 (.inl h))
    · exact (ih h).imp_right (List.mem_cons_of_mem _)
  | case4 => exact .inr h

theorem rising_placeRecord {row : RecordRow} {rows : List RecordRow}
    (h : rows.Pairwise fun a b => a.id < b.id) :
    (placeRecord row rows).Pairwise fun a b => a.id < b.id := by
  fun_induction placeRecord row rows with
  | case1 => simp
  | case2 first rest hlt =>
    refine List.pairwise_cons.2 ⟨fun r hr => ?_, h⟩
    rcases List.mem_cons.1 hr with rfl | hr
    · exact hlt
    · have := (List.pairwise_cons.1 h).1 r hr
      omega
  | case3 first rest _ hlt ih =>
    obtain ⟨h₁, h₂⟩ := List.pairwise_cons.1 h
    refine List.pairwise_cons.2 ⟨fun r hr => ?_, ih h₂⟩
    rcases mem_placeRecord hr with rfl | hr
    · exact hlt
    · exact h₁ r hr
  | case4 => exact h

/-! ## Stores -/

/-- Records are in rising order of their ids, and the rows of the other tables in the order of their
insertion. -/
structure Store where
  records : List RecordRow
  tags : List TagRow
  config : List ConfigRow
  /-- No two records may have one path. -/
  uniquePaths : Bool
  /-- No two records may have one text. -/
  uniqueTexts : Bool
  rising : records.Pairwise fun a b => a.id < b.id

namespace Store

def empty (uniquePaths uniqueTexts : Bool) : Store := ⟨[], [], [], uniquePaths, uniqueTexts, .nil⟩

def fresh : Store := empty true false

instance : Inhabited Store := ⟨fresh⟩

def count (s : Store) : Nat := s.records.length

/-! ## Records -/

/-- The first id from `id` on that no row has. -/
def unusedId (id : Int) : List RecordRow → Int
  | [] => id
  | r :: rest => if id < r.id then id else if r.id = id then unusedId (id + 1) rest else unusedId id rest

theorem le_unusedId (id : Int) (rows : List RecordRow) : id ≤ unusedId id rows := by
  fun_induction unusedId id rows <;> omega

theorem unusedId_ne {id : Int} {rows : List RecordRow} (hrising : rows.Pairwise fun a b => a.id < b.id)
    {r : RecordRow} (h : r ∈ rows) : r.id ≠ unusedId id rows := by
  fun_induction unusedId id rows with
  | case1 => cases h
  | case2 id first rest hlt =>
    have hfirst := (List.pairwise_cons.1 hrising).1
    rcases List.mem_cons.1 h with rfl | hrest
    · omega
    · have := hfirst r hrest
      omega
  | case3 first rest _ ih =>
    have hle := le_unusedId (first.id + 1) rest
    rcases List.mem_cons.1 h with rfl | hrest
    · omega
    · exact ih (List.pairwise_cons.1 hrising).2 hrest
  | case4 id first rest hnot hne ih =>
    have hle := le_unusedId id rest
    rcases List.mem_cons.1 h with rfl | hrest
    · omega
    · exact ih (List.pairwise_cons.1 hrising).2 hrest

/-- The id of the next record: one more than the greatest id, or one in an empty table. After the greatest integer
it is one that is not in use. -/
def nextId (s : Store) : Int :=
  match s.records.getLast? with
  | none => 1
  | some last => if last.id < Cell.greatestInteger then last.id + 1 else unusedId 1 s.records

theorem id_ne_nextId {s : Store} {r : RecordRow} (h : r ∈ s.records) : r.id ≠ s.nextId := by
  obtain ⟨front, last, hlast⟩ : ∃ front last, s.records = front ++ [last] :=
    ⟨s.records.dropLast, s.records.getLast (List.ne_nil_of_mem h), (List.dropLast_concat_getLast _).symm⟩
  have hrising := s.rising
  unfold nextId
  rw [hlast, List.getLast?_concat]
  dsimp only
  rw [hlast] at h hrising
  split
  · have hle : r.id ≤ last.id := by
      rcases List.mem_append.1 h with h | h
      · have := (List.pairwise_append.1 hrising).2.2 r h last (by simp)
        omega
      · exact Int.le_of_eq (congrArg RecordRow.id (List.mem_singleton.1 h))
    omega
  · exact unusedId_ne hrising h

/-- A column in which a new record would repeat a value that must not be repeated. -/
def violated? (s : Store) (path text : Cell) : Option UniqueColumn :=
  if s.uniquePaths && s.records.any (fun r => r.path = path && path ≠ .null) then some .path
  else if s.uniqueTexts && s.records.any (fun r => r.text = text && text ≠ .null) then some .text
  else none

def addRecord (s : Store) (path text : Cell) : Store :=
  { s with
    records := placeRecord ⟨s.nextId, path, text⟩ s.records
    rising := rising_placeRecord s.rising }

def deleteRecords (s : Store) (ids : List Int) : Store :=
  { s with
    records := s.records.filter fun r => r.id ∉ ids
    rising := s.rising.filter _ }

/-! ## Tags -/

def TagRow.isOf (ids : List Int) (row : TagRow) : Bool :=
  match row.id with
  | .integer n => n ∈ ids
  | _ => false

def deleteTags (s : Store) (ids : List Int) : Store :=
  { s with tags := s.tags.filter fun row => !TagRow.isOf ids row }

def tagRows (id : Int) (n : Note) : List TagRow :=
  n.tags.map (fun tag => ⟨.integer id, .text tag, .null⟩)
    ++ n.fields.map fun (name, value) => ⟨.integer id, .text name, Cell.ofValue value⟩

/-! ## Notes -/

def delete (s : Store) (ids : List Int) : Store := (s.deleteRecords ids).deleteTags ids

/-- Adds a note. Ids can be used again, so tags left behind by an earlier record are deleted. -/
def insert (s : Store) (n : Note) : Except Failure Store :=
  match s.violated? (.text n.path) (.text n.text) with
  | some column => .error (.integrityViolation column.violation)
  | none =>
    let cleared := (s.addRecord (.text n.path) (.text n.text)).deleteTags [s.nextId]
    .ok { cleared with tags := cleared.tags ++ tagRows s.nextId n }

def idsAt (s : Store) (path : Text) : List Int :=
  (s.records.filter fun r => r.path = .text path).map (·.id)

end Store

end Notebook
