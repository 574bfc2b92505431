import Notebook.Page.Header

/-! # A note while its lines are read -/

namespace Notebook

inductive Stage where
  /-- No header line yet; text is passed over. -/
  | preamble
  | header
  | body
  deriving DecidableEq, Repr

structure Draft where
  stage : Stage
  note : Note
  deriving DecidableEq, Repr

namespace Draft

def start : Draft := ⟨.preamble, Note.blank []⟩

def refuses (d : Draft) (line : Text) : Bool := d.stage = .body && isHeaderLine line

/-- A line of text. Blank lines before the first other line are not kept. -/
def takeText (d : Draft) (line : Text) : Draft :=
  match d.stage with
  | .preamble => d
  | .header | .body =>
    if d.note.lines = [] && line.isBlank then { d with stage := .body }
    else ⟨.body, { d.note with lines := d.note.lines ++ [line] }⟩

/-- The content of a header line. The first that is no divider is the path. -/
def takeHeader (d : Draft) (content : Text) : Draft :=
  if content = [] then d
  else if isDivider content then { d with stage := .header }
  else if d.note.path = [] then ⟨.header, { d.note with path := content }⟩
  else ⟨.header, (HeaderItem.read content).addTo d.note⟩

def take (d : Draft) (line : Text) : Draft :=
  match PageLine.read line with
  | .text line => d.takeText line
  | .header content => d.takeHeader content

def finish (d : Draft) : Option Note := if d.stage = .preamble then none else some d.note

/-- The notes that some lines finish, and the draft after them. -/
def through : Draft → List Text → List Note × Draft
  | d, [] => ([], d)
  | d, line :: rest =>
    if d.refuses line then
      let (notes, last) := through (start.take line) rest
      (d.finish.toList ++ notes, last)
    else through (d.take line) rest

end Draft

def notesOnLines (ls : List Text) : List Note :=
  let (notes, last) := Draft.start.through ls
  notes ++ last.finish.toList

end Notebook
