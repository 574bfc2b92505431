import Notebook.Number.Numeral

/-! # Settings files

A settings file is a TOML document: keys with values, grouped in tables. It is read into a tree of
tables, and whatever the format does not allow is refused.
-/

namespace Notebook.Toml

/-! ## Values -/

/-- How a table came to be, which decides what may still be added to it. -/
inductive Origin where
  /-- Named in brackets. -/
  | header
  /-- On the way to a table named in brackets. -/
  | implied
  /-- On the way to a key with dots. -/
  | dotted
  | inline
  deriving DecidableEq, Repr

inductive Value where
  | string (t : Text)
  | boolean (b : Bool)
  /-- A number, which no setting has. -/
  | number
  | date
  | array (items : List Value)
  /-- An array whose items are named in double brackets. -/
  | tables (items : List (List (Text × Value)))
  | table (origin : Origin) (members : List (Text × Value))

abbrev Members := List (Text × Value)

/-- Puts a value under a key, in its place if the key is there and else at the end. -/
def put (key : Text) (v : Value) : Members → Members
  | [] => [(key, v)]
  | (k, w) :: rest => if k = key then (k, v) :: rest else (k, w) :: put key v rest

/-! ## Blanks and line ends -/

def isSpace (c : Char) : Bool := c = ' ' || c = '\t'

def skipSpaces (t : Text) : Text := t.dropWhile isSpace

/-- Controls but the tab are allowed nowhere in a line. -/
def isAllowed (c : Char) : Bool := c = '\t' || (0x20 ≤ c.toNat && c.toNat ≠ 0x7F)

def afterLineEnd? : Text → Option Text
  | '\n' :: rest => some rest
  | '\r' :: '\n' :: rest => some rest
  | _ => none

/-- The text after blanks and a comment, if it is at a line end or at the end of the document. -/
def endLine? (t : Text) : Option Text :=
  let t := skipSpaces t
  let t? := match t with
    | '#' :: rest => some (rest.dropWhile isAllowed)
    | t => some t
  t?.bind fun t => if t = [] then some [] else afterLineEnd? t

def skipLines (t : Text) : Text :=
  let start := skipSpaces t
  match start with
  | [] => []
  | c :: _ =>
    if c = '#' || c = '\n' || c = '\r' then
      match endLine? start with
      | some rest => if _ : rest.length < t.length then skipLines rest else rest
      | none => start
    else start
  termination_by t.length

/-! ## Strings -/

def charOfHex? (digits : Text) : Option Char :=
  (hexValue? digits).bind fun n =>
    if h : n.isValidChar then some (Char.ofNatAux n h) else none

def readEscape? : Text → Option (Char × Text)
  | [] => none
  | c :: rest =>
    match c with
    | 'b' => some ('\x08', rest)
    | 't' => some ('\t', rest)
    | 'n' => some ('\n', rest)
    | 'f' => some ('\x0c', rest)
    | 'r' => some ('\r', rest)
    | '"' => some ('"', rest)
    | '\\' => some ('\\', rest)
    | 'u' => if rest.length < 4 then none else (charOfHex? (rest.take 4)).map (·, rest.drop 4)
    | 'U' => if rest.length < 8 then none else (charOfHex? (rest.take 8)).map (·, rest.drop 8)
    | _ => none

def readBasic? (t : Text) : Option (Text × Text) :=
  match t with
  | [] => none
  | '"' :: rest => some ([], rest)
  | '\\' :: rest =>
    match readEscape? rest with
    | some (c, after) =>
      if _ : after.length < rest.length + 1 then (readBasic? after).map fun (s, rest) => (c :: s, rest) else none
    | none => none
  | c :: rest => if isAllowed c then (readBasic? rest).map fun (s, rest) => (c :: s, rest) else none
  termination_by t.length

def readLiteral? : Text → Option (Text × Text)
  | [] => none
  | c :: rest =>
    if c = '\x27' then some ([], rest)
    else if isAllowed c then (readLiteral? rest).map fun (s, rest) => (c :: s, rest)
    else none

/-- The quotes that end a long string, of which up to two more can belong to it. -/
def closeLong? (mark : Char) (t : Text) : Option (Text × Text) :=
  let run := (t.takeWhile (· = mark)).length
  if run < 3 then none
  else if 5 < run then some ([mark, mark], t.drop 5)
  else some (List.replicate (run - 3) mark, t.drop run)

/-- The text after spaces and line ends. A carriage return is part of a line end or is left. -/
def skipContinuation : Text → Text
  | [] => []
  | [c] => if isSpace c || c = '\n' then [] else [c]
  | c :: d :: rest =>
    if isSpace c || c = '\n' then skipContinuation (d :: rest)
    else if c = '\r' && d = '\n' then skipContinuation rest
    else c :: d :: rest

/-- After a backslash at the end of a line, spaces and line ends are skipped. -/
def skipContinued? (t : Text) : Option Text := (afterLineEnd? (skipSpaces t)).map skipContinuation

def readLong? (mark : Char) (t : Text) : Option (Text × Text) :=
  match closeLong? mark t with
  | some found => some found
  | none =>
    match t with
    | [] => none
    | c :: rest =>
      if c = '\\' && mark = '"' then
        match readEscape? rest with
        | some (d, after) =>
          if _ : after.length < rest.length + 1 then (readLong? mark after).map fun (s, r) => (d :: s, r) else none
        | none =>
          match skipContinued? rest with
          | some after => if _ : after.length < rest.length + 1 then readLong? mark after else none
          | none => none
      else match afterLineEnd? t with
        | some after =>
          if _ : after.length < rest.length + 1 then (readLong? mark after).map fun (s, r) => ('\n' :: s, r) else none
        | none =>
          if isAllowed c then
            (readLong? mark rest).map fun (s, r) => (c :: s, r)
          else none
  termination_by t.length

/-- A line end right after the opening quotes of a long string does not belong to it. -/
def startLong (t : Text) : Text := (afterLineEnd? t).getD t

def readString? : Text → Option (Text × Text)
  | '"' :: '"' :: '"' :: rest => readLong? '"' (startLong rest)
  | '\x27' :: '\x27' :: '\x27' :: rest => readLong? '\x27' (startLong rest)
  | '"' :: rest => readBasic? rest
  | '\x27' :: rest => readLiteral? rest
  | _ => none

/-! ## Keys -/

def isBareKey (c : Char) : Bool := c.isAlphanum || c = '_' || c = '-'

def readKeyPart? (t : Text) : Option (Text × Text) :=
  match t with
  | '"' :: rest => readBasic? rest
  | '\x27' :: rest => readLiteral? rest
  | _ =>
    let key := t.takeWhile isBareKey
    if key = [] then none else some (key, t.dropWhile isBareKey)

def readKeyParts? (t : Text) : Option (List Text × Text) :=
  match readKeyPart? (skipSpaces t) with
  | none => none
  | some (part, rest) =>
    match skipSpaces rest with
    | '.' :: rest =>
      if _ : rest.length < t.length then (readKeyParts? rest).map fun (key, rest) => (part :: key, rest)
      else none
    | rest => some ([part], rest)
  termination_by t.length

/-- How many parts a key may have, and how many values may be around another. -/
def greatestDepth : Nat := 79

def readKey? (t : Text) : Option (List Text × Text) :=
  (readKeyParts? t).filter fun (key, _) => key.length ≤ greatestDepth

/-! ## Numbers and dates -/

/-- Digits with single underscores between them. -/
def isDigits (isDigit : Char → Bool) (t : Text) : Bool :=
  (t.pieces (· = '_')).all fun piece => piece ≠ [] && piece.all isDigit

/-- A decimal number has no zero in front. -/
def isDecimal (t : Text) : Bool := isDigits Char.isDigit t && (t.length = 1 || t.head? ≠ some '0')

def dropSign : Text → Text
  | '+' :: t => t
  | '-' :: t => t
  | t => t

def isHexChar (c : Char) : Bool := (hexDigit? c).isSome

def baseValue (base : Nat) (t : Text) : Nat :=
  t.foldl (fun n c => if c = '_' then n else base * n + (hexDigit? c).getD 0) 0

def isInteger (t : Text) : Bool :=
  match t with
  | '0' :: 'x' :: digits => isDigits isHexChar digits && baseValue 16 digits < Nat.pow 2 63
  | '0' :: 'o' :: digits => isDigits (fun c => '0' ≤ c && c ≤ '7') digits && baseValue 8 digits < Nat.pow 2 63
  | '0' :: 'b' :: digits => isDigits (fun c => c = '0' || c = '1') digits && baseValue 2 digits < Nat.pow 2 63
  | t =>
    isDecimal (dropSign t)
      && baseValue 10 (dropSign t) < Nat.pow 2 63 + (if t.head? = some '-' then 1 else 0)

def isExponent (t : Text) : Bool := isDigits Char.isDigit (dropSign t)

/-- A fraction or an exponent, or both, after a decimal number; or a number that is not finite. -/
def isFloatForm (t : Text) : Bool :=
  let unsigned := dropSign t
  if unsigned = "inf".toList || unsigned = "nan".toList then true
  else
    let isE (c : Char) : Bool := c = 'e' || c = 'E'
    let (mantissa, exponentOk, hasExponent) := match unsigned.cutAt? isE with
      | some (m, e) => (m, isExponent e, true)
      | none => (unsigned, true, false)
    exponentOk && match mantissa.cutAt? (· = '.') with
      | some (whole, fraction) => isDecimal whole && isDigits Char.isDigit fraction
      | none => hasExponent && isDecimal mantissa

/-- A number that is too great is refused, but not one that is too small. -/
def isFloat (t : Text) : Bool :=
  isFloatForm t && ((Numeral.scan? (t.filter (· ≠ '_'))).map fun (n, _) => n.value) ≠ some (.infinite false)

def twoDigits? (t : Text) : Option Nat :=
  if t.length = 2 && t.all Char.isDigit then some (digitsValue t) else none

def daysIn (year month : Nat) : Nat :=
  if month = 2 then (if year % 4 = 0 && (year % 100 ≠ 0 || year % 400 = 0) then 29 else 28)
  else if month = 4 || month = 6 || month = 9 || month = 11 then 30 else 31

def isDate (t : Text) : Bool :=
  match t.pieces (· = '-') with
  | [y, m, d] =>
    y.length = 4 && y.all Char.isDigit && match twoDigits? m, twoDigits? d with
      | some m, some d => 1 ≤ m && m ≤ 12 && 1 ≤ d && d ≤ daysIn (digitsValue y) m
      | _, _ => false
  | _ => false

def isTime (t : Text) : Bool :=
  match t.pieces (· = ':') with
  | [h, m, s] =>
    let (second, fractionOk) := match s.cutAt? (· = '.') with
      | some (s, fraction) => (s, fraction ≠ [] && fraction.all Char.isDigit)
      | none => (s, true)
    fractionOk && match twoDigits? h, twoDigits? m, twoDigits? second with
      | some h, some m, some s => h ≤ 23 && m ≤ 59 && s ≤ 60
      | _, _, _ => false
  | _ => false

def isOffset (t : Text) : Bool :=
  match t with
  | c :: h =>
    (c = '+' || c = '-') && match Text.pieces (· = ':') h with
      | [h, m] =>
        match twoDigits? h, twoDigits? m with
        | some h, some m => h ≤ 23 && m ≤ 59
        | _, _ => false
      | _ => false
  | [] => false

def isZonedTime (t : Text) : Bool :=
  isTime t
    || (match t.reverse with
      | c :: back => (c = 'Z' || c = 'z') && isTime back.reverse
      | [] => false)
    || (isTime (t.take (t.length - 6)) && isOffset (t.drop (t.length - 6)))

def isDateTime (t : Text) : Bool :=
  isDate t || isTime t
    || (isDate (t.take 10) && match t.drop 10 with
      | c :: time => (c = 'T' || c = 't' || c = ' ') && isZonedTime time
      | [] => false)

def isScalarChar (c : Char) : Bool :=
  c.isAlphanum || c = '+' || c = '-' || c = '.' || c = '_' || c = ':'

/-- Reads a value that is written in one word; only between a date and a time can a space stand. -/
def readScalar? (t : Text) : Option (Value × Text) :=
  let word := t.takeWhile isScalarChar
  let rest := t.dropWhile isScalarChar
  if word = "true".toList then some (.boolean true, rest)
  else if word = "false".toList then some (.boolean false, rest)
  else
    let time := (rest.drop 1).takeWhile isScalarChar
    if isDate word && rest.head? = some ' ' && (time.head?.any Char.isDigit) then
      if isDateTime (word ++ ' ' :: time) then some (.date, (rest.drop 1).dropWhile isScalarChar) else none
    else if isDateTime word then some (.date, rest)
    else if isInteger word || isFloat word then some (.number, rest)
    else none

/-! ## Keys into tables -/

/-- Puts a value under a key of several parts. Tables on the way are made. Tables on the way to others may
be passed, and the last table of an array, but the table that gets the value must be on the way to a key
with dots. -/
def insert? (members : Members) : List Text → Value → Option Members
  | [], _ => none
  | [key], v => if (members.lookup key).isSome then none else some (members ++ [(key, v)])
  | key :: next :: path, v =>
    match members.lookup key with
    | none => (insert? [] (next :: path) v).map fun inner => members ++ [(key, .table .dotted inner)]
    | some (.table .dotted inner) =>
      (insert? inner (next :: path) v).map fun inner => put key (.table .dotted inner) members
    | some (.table .implied inner) =>
      if path = [] then none
      else (insert? inner (next :: path) v).map fun inner => put key (.table .implied inner) members
    | some (.tables items) =>
      match items.getLast? with
      | none => none
      | some last =>
        if path = [] then none
        else (insert? last (next :: path) v).map fun last => put key (.tables (items.dropLast ++ [last])) members
    | some _ => none

/-! ## Arrays and inline tables -/

mutual

/-- Reads a value, in which so many levels of arrays and tables may be opened; `fuel` bounds the number of
steps. -/
def readValue? : (fuel levels : Nat) → Text → Option (Value × Text)
  | 0, _, _ => none
  | _ + 1, _, [] => none
  | fuel + 1, levels, c :: rest =>
    if c = '"' || c = '\x27' then (readString? (c :: rest)).map fun (s, rest) => (.string s, rest)
    else if c = '[' then
      match levels with
      | 0 => none
      | levels + 1 => (readItems? fuel levels rest).map fun (items, rest) => (.array items, rest)
    else if c = '\x7b' then
      match levels, skipSpaces rest with
      | 0, _ => none
      | _, '\x7d' :: rest => some (.table .inline [], rest)
      | levels + 1, rest => (readPairs? fuel levels [] rest).map fun (members, rest) => (.table .inline members, rest)
    else readScalar? (c :: rest)

def readItems? : (fuel levels : Nat) → Text → Option (List Value × Text)
  | 0, _, _ => none
  | fuel + 1, levels, t =>
    match skipLines t with
    | ']' :: rest => some ([], rest)
    | t =>
      match readValue? fuel levels t with
      | none => none
      | some (v, rest) =>
        match skipLines rest with
        | ',' :: rest => (readItems? fuel levels rest).map fun (items, rest) => (v :: items, rest)
        | ']' :: rest => some ([v], rest)
        | _ => none

def readPairs? : (fuel levels : Nat) → Members → Text → Option (Members × Text)
  | 0, _, _, _ => none
  | fuel + 1, levels, members, t =>
    match readKey? t with
    | some (key, '=' :: rest) =>
      match readValue? fuel levels (skipSpaces rest) with
      | none => none
      | some (v, rest) =>
        match insert? members key v, skipSpaces rest with
        | some members, ',' :: rest => readPairs? fuel levels members rest
        | some members, '\x7d' :: rest => some (members, rest)
        | _, _ => none
    | _ => none

end

/-! ## Documents -/

def within? (change : Members → Option Members) : List Text → Members → Option Members
  | [], members => change members
  | key :: path, members =>
    match members.lookup key with
    | none => (within? change path []).map fun inner => members ++ [(key, .table .implied inner)]
    | some (.table .inline _) => none
    | some (.table origin inner) =>
      (within? change path inner).map fun inner => put key (.table origin inner) members
    | some (.tables items) =>
      match items.getLast? with
      | none => none
      | some last =>
        (within? change path last).map fun last => put key (.tables (items.dropLast ++ [last])) members
    | some _ => none

/-- Begins a table named in brackets. One on the way to another may be named once. -/
def beginTable (key : Text) (members : Members) : Option Members :=
  match members.lookup key with
  | none => some (members ++ [(key, .table .header [])])
  | some (.table .implied inner) => some (put key (.table .header inner) members)
  | some _ => none

def beginItem (key : Text) (members : Members) : Option Members :=
  match members.lookup key with
  | none => some (members ++ [(key, .tables [[]])])
  | some (.tables items) => some (put key (.tables (items ++ [[]])) members)
  | some _ => none

/-- A table in brackets: the path to the table around it, and its own name. -/
def splitLast? (key : List Text) : Option (List Text × Text) :=
  key.getLast?.map (key.dropLast, ·)

/-- Reads one line that is not empty: a table in brackets, or a key and a value. The state is the
document and the path of the table being filled. -/
def readEntry? (root : Members) (table : List Text) (t : Text) : Option (Members × List Text × Text) :=
  match t with
  | '[' :: '[' :: rest =>
    match readKey? rest with
    | some (key, ']' :: ']' :: rest) => do
      let (around, name) ← splitLast? key
      let root ← within? (beginItem name) around root
      let rest ← endLine? rest
      return (root, key, rest)
    | _ => none
  | '[' :: rest =>
    match readKey? rest with
    | some (key, ']' :: rest) => do
      let (around, name) ← splitLast? key
      let root ← within? (beginTable name) around root
      let rest ← endLine? rest
      return (root, key, rest)
    | _ => none
  | t =>
    match readKey? t with
    | some (key, '=' :: rest) => do
      let (v, rest) ← readValue? (rest.length + 1) greatestDepth (skipSpaces rest)
      let root ← within? (fun members => insert? members key v) table root
      let rest ← endLine? rest
      return (root, table, rest)
    | _ => none

def readEntries? (root : Members) (table : List Text) (t : Text) : Option Members :=
  let start := skipLines t
  if start = [] then some root
  else match readEntry? root table start with
    | none => none
    | some (root, table, rest) => if _ : rest.length < t.length then readEntries? root table rest else none
  termination_by t.length

def dropByteOrderMark : Text → Text
  | [] => []
  | c :: rest => if c.toNat = 0xFEFF then rest else c :: rest

def read? (t : Text) : Option Members := readEntries? [] [] (dropByteOrderMark t)

end Notebook.Toml
