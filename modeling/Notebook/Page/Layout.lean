import Notebook.Notes

/-! # Writing notes

The form of a note on a page: a divider, the path, the directive, tags and fields if there are any,
an empty line, and the text.
-/

namespace Notebook

def pageWidth : Nat := 80

def headerLine (content : Text) : Text := '\\' :: ' ' :: content

def dividerLine : Text := '\\' :: List.replicate (pageWidth - 1) '='

/-! ## Tags -/

def tagRow (tags : List Text) : Text := Text.joined [',', ' '] tags

def rowWidth (tags : List Text) : Nat := (headerLine (tagRow tags)).length

/-- Tags in rows after a row that has been begun, which takes every tag that still fits. -/
def fillRows (row : List Text) : List Text → List (List Text)
  | [] => [row]
  | tag :: rest =>
    if rowWidth (row ++ [tag]) ≤ pageWidth then fillRows (row ++ [tag]) rest
    else row :: fillRows [tag] rest

def rowsOf : List Text → List (List Text)
  | [] => []
  | tag :: rest => fillRows [tag] rest

/-- Tags in rows; a tag that is wider than a row has one to itself, and empty tags are left out. -/
def packTags (tags : List Text) : List Text := (rowsOf (tags.filter (· ≠ []))).map tagRow

/-! ## Fields -/

/-- Longer names do not widen the column of names. -/
def widestName : Nat := 24

def nameWidth (fields : List Field) : Nat :=
  min widestName ((fields.map (·.1.length)).foldl max 0)

def fieldLine (width : Nat) (f : Field) : Text := f.1.padded width ++ " = ".toList ++ f.2.written

/-! ## Notes -/

namespace Note

def details (n : Note) : List Text := packTags n.tags ++ n.fields.map (fieldLine (nameWidth n.fields))

def headerLines (n : Note) : List Text :=
  [dividerLine, headerLine n.path, headerLine ('@' :: n.directive.written)]
    ++ (if n.tags = [] && n.fields = [] then [] else ['\\'] :: n.details.map headerLine)

def writtenLines (n : Note) : List Text := n.headerLines ++ [] :: n.lines

def written (n : Note) : Text := Text.ofLines n.writtenLines

end Note

end Notebook
