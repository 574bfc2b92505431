/-! # Texts, blanks and lines -/

namespace Notebook

abbrev Text := List Char

namespace Text

instance : LawfulBEq Text := inferInstance

/-! ## Blanks -/

/-- The White_Space characters: the ASCII blanks U+0009 to U+000D and U+0020, and those beyond. -/
def isBlankChar (c : Char) : Bool :=
  let n := c.toNat
  (9 ≤ n && n ≤ 13) || n = 0x20 || n = 0x85 || n = 0xA0 || n = 0x1680 || (0x2000 ≤ n && n ≤ 0x200A)
    || n = 0x2028 || n = 0x2029 || n = 0x202F || n = 0x205F || n = 0x3000

def isBlank (t : Text) : Bool := t.all isBlankChar

def trimStart (t : Text) : Text := t.dropWhile isBlankChar

def trimEnd (t : Text) : Text := (t.reverse.dropWhile isBlankChar).reverse

def trim (t : Text) : Text := t.trimStart.trimEnd

def stripped (p : Char → Bool) (t : Text) : Text := ((t.dropWhile p).reverse.dropWhile p).reverse

/-! ## Cutting and joining -/

/-- Cuts at the first character in the class, which is in neither part. -/
def cutAt? (p : Char → Bool) : Text → Option (Text × Text)
  | [] => none
  | c :: rest => if p c then some ([], rest) else (cutAt? p rest).map fun (a, b) => (c :: a, b)

/-- The pieces between the characters of the class; there is always at least one piece. -/
def pieces (p : Char → Bool) : Text → List Text
  | [] => [[]]
  | c :: rest =>
    if p c then [] :: pieces p rest
    else match pieces p rest with
      | [] => [[c]]
      | first :: more => (c :: first) :: more

def after? : Text → Text → Option Text
  | [], t => some t
  | _ :: _, [] => none
  | c :: start, d :: t => if c = d then after? start t else none

def joined (between : Text) (parts : List Text) : Text := between.intercalate parts

def padded (width : Nat) (t : Text) : Text := t ++ List.replicate (width - t.length) ' '

/-! ## Lines -/

/-- Lines end at a line feed, and a carriage return right before it belongs to the line end. A last
line without an end counts if it has a character. -/
def lines : Text → List Text
  | [] => []
  | '\n' :: rest => [] :: lines rest
  | '\r' :: '\n' :: rest => [] :: lines rest
  | c :: rest =>
    match lines rest with
    | [] => [[c]]
    | first :: more => (c :: first) :: more

def ofLines (ls : List Text) : Text := ls.flatMap (· ++ ['\n'])

end Text

end Notebook
