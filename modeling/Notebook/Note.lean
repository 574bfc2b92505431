import Notebook.Directive
import Notebook.Failure
import Notebook.Field
import Notebook.Text.Alphanumeric
import Notebook.Text.Lowercase

/-! # Notes -/

namespace Notebook

structure Note where
  path : Text
  lines : List Text
  tags : List Text
  fields : List Field
  directive : Directive
  deriving DecidableEq, Repr

namespace Note

def blank (path : Text) : Note := ⟨path, [], [], [], .insert⟩

instance : Inhabited Note := ⟨blank []⟩

/-- Notes are the same whatever their directives. -/
def same (n m : Note) : Bool :=
  n.path = m.path && n.lines = m.lines && n.tags = m.tags && sameFields n.fields m.fields

/-! ## Tags and fields -/

def addTo (tags : List Text) (tag : Text) : List Text := if tag ∈ tags then tags else tags ++ [tag]

def addTag (n : Note) (tag : Text) : Note :=
  if tag.trim = [] then n else { n with tags := addTo n.tags tag.trim }

/-- Adds a field unless one of that name has an equal value. -/
def addField (n : Note) (f : Field) : Note :=
  if n.fields.any (·.same f) then n else { n with fields := n.fields ++ [f] }

def fieldValues (n : Note) (name : Text) : List FieldValue :=
  (n.fields.filter (·.1.lower = name.lower)).map (·.2)

/-! ## Text -/

def text (n : Note) : Text := Text.ofLines n.lines

def linesOf (t : Text) : List Text := t.lines.dropWhile Text.isBlank

def setText (n : Note) (t : Text) : Note := { n with lines := linesOf t }

/-- Runs of letters, digits and underscores. -/
def wordsIn (line : Text) : List Text := (line.pieces fun c => !isWordPart c).filter (· ≠ [])

def words (n : Note) : List Text := n.lines.flatMap wordsIn

def wordCount (n : Note) : Nat := n.words.length

/-! ## Merging -/

/-- The lines of one note after those of another, set off by an empty line, unless they are equal. -/
def mergedLines (lines other : List Text) : List Text :=
  if lines = other then lines else lines ++ [] :: other

def join (n other : Note) : Note :=
  let n := { n with lines := mergedLines n.lines other.lines }
  let n := other.tags.foldl addTag n
  other.fields.foldl addField n

def merge (n other : Note) : Except Failure Note :=
  if n.path = other.path then .ok (n.join other) else .error (.incompatibleMerge n.path other.path)

end Note

end Notebook
