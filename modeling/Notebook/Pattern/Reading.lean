import Notebook.Number.Numeral
import Notebook.Pattern.Size
import Notebook.Text.Alphanumeric

/-! # Reading search expressions

An expression is first cut into pieces, such as a letter, a set in brackets, or a repeat sign, and the
pieces are then put together group by group. An expression that is nested too deep or takes too much room
is refused.
-/

namespace Notebook

/-! ## Flags -/

structure PatternFlags where
  anyCase : Bool
  /-- `^` and `$` also stand at line ends. -/
  lines : Bool
  /-- The point also stands for a line feed. -/
  dotAll : Bool
  deriving DecidableEq, Repr

def PatternFlags.off : PatternFlags := ⟨false, false, false⟩

abbrev FlagChange := List (Char × Bool)

def FlagChange.apply (change : FlagChange) (flags : PatternFlags) : PatternFlags :=
  ⟨(change.lookup 'i').getD flags.anyCase, (change.lookup 'm').getD flags.lines,
    (change.lookup 's').getD flags.dotAll⟩

/-! ## Pieces -/

inductive PatternPiece where
  | letter (c : Char)
  | dot
  | set (s : CharSet) (depth : Nat)
  | lineStart
  | lineEnd
  | place (p : Place)
  | repeated (least : Nat) (most : Option Nat)
  | bar
  | openKept (name : Option Text)
  | openGroup (change : FlagChange)
  | closeGroup
  /-- Flags for the rest of the group. -/
  | flags (change : FlagChange)
  deriving DecidableEq, Repr

/-! ## Escapes -/

def charOfCode? (n : Nat) : Option Char := if h : n.isValidChar then some (Char.ofNatAux n h) else none

/-- A character by its code, in a fixed number of digits or between braces. -/
def readCode? (width : Nat) : Text → Option (Char × Text)
  | '\x7b' :: rest =>
    match Text.cutAt? (· = '\x7d') rest with
    | some (digits, rest) => ((hexValue? digits).bind charOfCode?).map (·, rest)
    | none => none
  | t =>
    if t.length < width then none
    else ((hexValue? (t.take width)).bind charOfCode?).map (·, t.drop width)

inductive Escape where
  | letter (c : Char)
  | set (s : CharSet)
  | place (p : Place)
  deriving DecidableEq, Repr

/-- Signs that a backslash makes literal: all of ASCII but letters, digits and angle brackets. -/
def isEscapable (c : Char) : Bool := c.toNat < 0x80 && !c.isAlphanum && c ≠ '<' && c ≠ '>'

def namedEdges : List (String × Place) :=
  [("start", .wordStart), ("end", .wordEnd), ("start-half", .wordStartHalf), ("end-half", .wordEndHalf)]

/-- Reads the name of a word edge between braces, if there is one. A brace before anything but a letter or
a hyphen is not the start of a name. -/
def readEdge? (t : Text) : Option (Place × Text) :=
  let isNameChar (c : Char) : Bool := c.isAlpha || c = '-'
  match t with
  | ['\x7b'] => none
  | '\x7b' :: c :: rest =>
    if !isNameChar c then some (.edge, t)
    else
      let name := (c :: rest).takeWhile isNameChar
      match (c :: rest).dropWhile isNameChar with
      | '\x7d' :: rest => (namedEdges.lookup (String.ofList name)).map (·, rest)
      | _ => none
  | t => some (.edge, t)

def readEscape? : Text → Option (Escape × Text)
  | [] => none
  | c :: rest =>
    if isEscapable c then some (.letter c, rest)
    else match c with
      | 'd' => some (.set .digit, rest)
      | 'D' => some (.set (.negated .digit), rest)
      | 's' => some (.set .blank, rest)
      | 'S' => some (.set (.negated .blank), rest)
      | 'w' => some (.set .word, rest)
      | 'W' => some (.set (.negated .word), rest)
      | 'b' => (readEdge? rest).map fun (p, rest) => (.place p, rest)
      | 'B' => some (.place .noEdge, rest)
      | 'A' => some (.place .textStart, rest)
      | 'z' => some (.place .textEnd, rest)
      | '<' => some (.place .wordStart, rest)
      | '>' => some (.place .wordEnd, rest)
      | 'n' => some (.letter '\n', rest)
      | 't' => some (.letter '\t', rest)
      | 'r' => some (.letter '\r', rest)
      | 'a' => some (.letter '\x07', rest)
      | 'f' => some (.letter '\x0c', rest)
      | 'v' => some (.letter '\x0b', rest)
      | 'x' => (readCode? 2 rest).map fun (c, rest) => (.letter c, rest)
      | 'u' => (readCode? 4 rest).map fun (c, rest) => (.letter c, rest)
      | 'U' => (readCode? 8 rest).map fun (c, rest) => (.letter c, rest)
      | _ => none

/-! ## Sets in brackets -/

def CharSet.ofRanges (rs : Ranges) : CharSet :=
  rs.foldl (fun s (low, high) => .union s (.range low high)) .none

def Ranges.ofChars (rs : List (Char × Char)) : Ranges := rs.map fun (low, high) => (low.toNat, high.toNat)

def namedSets : List (String × Ranges) :=
  [("alnum", .ofChars [('0', '9'), ('A', 'Z'), ('a', 'z')]), ("alpha", .ofChars [('A', 'Z'), ('a', 'z')]),
    ("ascii", .ofChars [('\x00', '\x7f')]), ("blank", .ofChars [('\t', '\t'), (' ', ' ')]),
    ("cntrl", .ofChars [('\x00', '\x1f'), ('\x7f', '\x7f')]), ("digit", .ofChars [('0', '9')]),
    ("graph", .ofChars [('!', '~')]), ("lower", .ofChars [('a', 'z')]), ("print", .ofChars [(' ', '~')]),
    ("punct", .ofChars [('!', '/'), (':', '@'), ('[', '\x60'), ('\x7b', '~')]),
    ("space", .ofChars [('\t', '\r'), (' ', ' ')]), ("upper", .ofChars [('A', 'Z')]),
    ("word", .ofChars [('0', '9'), ('A', 'Z'), ('_', '_'), ('a', 'z')]),
    ("xdigit", .ofChars [('0', '9'), ('A', 'F'), ('a', 'f')])]

/-- Reads a named set after `[:`, up to and with `:]`. A set of all other characters is made before case
counts. -/
def readNamed? (t : Text) : Option (CharSet × Text) :=
  let (isNegated, t) := match t with
    | '^' :: t => (true, t)
    | t => (false, t)
  match Text.cutAt? (· = ':') t with
  | some (name, ']' :: rest) =>
    (namedSets.lookup (String.ofList name)).map fun rs =>
      (.ofRanges (if isNegated then rs.complement else rs), rest)
  | _ => none

inductive SetOperator where
  | inter
  | diff
  | symmDiff
  deriving DecidableEq, Repr

/-- An operand inside brackets: what it takes, how many members it has, and how deep they are nested. -/
structure SetOperand where
  taken : CharSet
  members : Nat
  deepest : Nat
  deriving DecidableEq, Repr

namespace SetOperand

def empty : SetOperand := ⟨.none, 0, 0⟩

def add (o : SetOperand) (s : CharSet) (depth : Nat) : SetOperand :=
  ⟨.union o.taken s, o.members + 1, max o.deepest depth⟩

/-- Several members are one level of their own. -/
def depth (o : SetOperand) : Nat := if 2 ≤ o.members then o.deepest + 1 else o.deepest

def operate (o : SetOperand) (op : SetOperator) (p : SetOperand) : SetOperand :=
  let taken := match op with
    | .inter => CharSet.inter o.taken p.taken
    | .diff => .diff o.taken p.taken
    | .symmDiff => .symmDiff o.taken p.taken
  ⟨taken, 1, max o.depth p.depth + 1⟩

end SetOperand

/-- Brackets that are still open: whether they take what is not inside, the operation whose second
operand is being read with its first one, and the operand so far. -/
structure OpenSet where
  isNegated : Bool
  pending : Option (SetOperand × SetOperator)
  current : SetOperand
  deriving DecidableEq, Repr

namespace OpenSet

def settled (o : OpenSet) : SetOperand :=
  match o.pending with
  | none => o.current
  | some (first, op) => first.operate op o.current

def close (o : OpenSet) : CharSet × Nat :=
  (if o.isNegated then .negated o.settled.taken else o.settled.taken, o.settled.depth + 1)

def add (o : OpenSet) (s : CharSet) (depth : Nat) : OpenSet := { o with current := o.current.add s depth }

def operate (o : OpenSet) (op : SetOperator) : OpenSet :=
  { o with pending := some (o.settled, op), current := .empty }

end OpenSet

/-- Hyphens right after an opening bracket stand for themselves. -/
def leadingHyphens (o : OpenSet) : Text → OpenSet × Text
  | '-' :: rest => leadingHyphens (o.add (.range 0x2D 0x2D) 0) rest
  | t => (o, t)

/-- What follows an opening bracket. A closing bracket that comes first stands for itself. -/
def openSet (t : Text) : OpenSet × Text :=
  let (isNegated, t) := match t with
    | '^' :: t => (true, t)
    | t => (false, t)
  let (o, t) := leadingHyphens ⟨isNegated, none, .empty⟩ t
  match t with
  | ']' :: t => if o.current.members = 0 then (o.add (.range 0x5D 0x5D) 0, t) else (o, ']' :: t)
  | t => (o, t)

def readMember? : Text → Option (Escape × Text)
  | [] => none
  | '\\' :: rest =>
    match readEscape? rest with
    | some (.place _, _) => none
    | found => found
  | c :: rest => some (.letter c, rest)

def readRange? (t : Text) : Option (CharSet × Text) :=
  match readMember? t with
  | some (.set s, '-' :: rest) =>
    if rest.head? = some ']' || rest.head? = some '-' then some (s, '-' :: rest) else none
  | some (.set s, rest) => some (s, rest)
  | some (.letter low, '-' :: rest) =>
    if rest.head? = some ']' || rest.head? = some '-' then some (.range low.toNat low.toNat, '-' :: rest)
    else match readMember? rest with
      | some (.letter high, rest) =>
        if low.toNat ≤ high.toNat then some (.range low.toNat high.toNat, rest) else none
      | _ => none
  | some (.letter c, rest) => some (.range c.toNat c.toNat, rest)
  | _ => none

/-- Reads a set whose outermost bracket is already open, and how deep it is nested; `outer` holds the
brackets around the innermost open one. -/
def readSet? (outer : List OpenSet) (o : OpenSet) (t : Text) : Option ((CharSet × Nat) × Text) :=
  let next (outer : List OpenSet) (o : OpenSet) (rest : Text) : Option ((CharSet × Nat) × Text) :=
    if _ : rest.length < t.length then readSet? outer o rest else none
  match t with
  | [] => none
  | ']' :: rest =>
    match outer with
    | [] => some (o.close, rest)
    | around :: outer => next outer (around.add o.close.1 o.close.2) rest
  | '[' :: ':' :: rest =>
    match readNamed? rest with
    | some (s, rest) => next outer (o.add s 0) rest
    | none =>
      let (inner, rest) := openSet (':' :: rest)
      next (o :: outer) inner rest
  | '[' :: rest =>
    let (inner, rest) := openSet rest
    next (o :: outer) inner rest
  | '&' :: '&' :: rest => next outer (o.operate .inter) rest
  | '-' :: '-' :: rest => next outer (o.operate .diff) rest
  | '~' :: '~' :: rest => next outer (o.operate .symmDiff) rest
  | t =>
    match readRange? t with
    | some (s, rest) => next outer (o.add s 0) rest
    | none => none
  termination_by t.length

/-! ## Repeats -/

def greatestRepeat : Nat := Nat.pow 2 32 - 1

def readCount? (t : Text) : Option (Nat × Text) :=
  let (digits, rest) := spanDigits t.trimStart
  if digits = [] || greatestRepeat < digitsValue digits then none
  else some (digitsValue digits, rest.trimStart)

/-- Reads the bounds of a repeat after the opening brace. Only the upper bound may be missing, and then
the brace follows right after the comma. -/
def readBounds? (t : Text) : Option ((Nat × Option Nat) × Text) :=
  match readCount? t with
  | some (least, '\x7d' :: rest) => some ((least, some least), rest)
  | some (least, ',' :: '\x7d' :: rest) => some ((least, none), rest)
  | some (least, ',' :: rest) =>
    match readCount? rest with
    | some (most, '\x7d' :: rest) => if least ≤ most then some ((least, some most), rest) else none
    | _ => none
  | _ => none

/-- A question mark after a repeat asks for the shortest match, which does not change whether there is
one. -/
def dropLazy : Text → Text
  | '?' :: rest => rest
  | t => t

/-! ## Groups -/

/-- The letters of flags: case, lines and points, and two that do not change whether there is a match,
lazy repeats and the character set, of which the latter can only be confirmed. -/
def isFlag (on : Bool) (c : Char) : Bool := c = 'i' || c = 'm' || c = 's' || c = 'U' || (c = 'u' && on)

/-- Reads flags up to the sign that ends them. A minus turns the flags after it off. -/
def readFlags? (on : Bool) (change : FlagChange) : Text → Option (FlagChange × Char × Text)
  | [] => none
  | c :: rest =>
    if c = ')' || c = ':' then some (change, c, rest)
    else if c = '-' then
      if on && rest.head? ≠ some ')' && rest.head? ≠ some ':' then readFlags? false change rest else none
    else if isFlag on c && (change.lookup c).isNone then readFlags? on ((c, on) :: change) rest
    else none

def isNameStart (c : Char) : Bool := c = '_' || (isAlphanumeric c && !isDigitChar c)

def readGroupName? (t : Text) : Option (Text × Text) :=
  match t.cutAt? (· = '>') with
  | some (c :: name, rest) =>
    if isNameStart c && name.all (fun c => isWordPart c || c = '.' || c = '[' || c = ']') then
      some (c :: name, rest)
    else none
  | _ => none

def readOpening? : Text → Option (PatternPiece × Text)
  | '?' :: 'P' :: '<' :: rest => (readGroupName? rest).map fun (name, rest) => (.openKept (some name), rest)
  | '?' :: '<' :: rest => (readGroupName? rest).map fun (name, rest) => (.openKept (some name), rest)
  | '?' :: ')' :: _ => none
  | '?' :: rest =>
    match readFlags? true [] rest with
    | some (change, ':', rest) => some (.openGroup change, rest)
    | some (change, _, rest) => some (.flags change, rest)
    | none => none
  | rest => some (.openKept none, rest)

/-! ## Cutting into pieces -/

def Escape.piece : Escape → PatternPiece
  | letter c => .letter c
  | set s => .set s 0
  | place p => .place p

def readPiece? : Text → Option (PatternPiece × Text)
  | [] => none
  | c :: rest =>
    match c with
    | '\\' => (readEscape? rest).map fun (e, rest) => (e.piece, rest)
    | '.' => some (.dot, rest)
    | '^' => some (.lineStart, rest)
    | '$' => some (.lineEnd, rest)
    | '|' => some (.bar, rest)
    | '(' => readOpening? rest
    | ')' => some (.closeGroup, rest)
    | '*' => some (.repeated 0 none, dropLazy rest)
    | '+' => some (.repeated 1 none, dropLazy rest)
    | '?' => some (.repeated 0 (some 1), dropLazy rest)
    | '\x7b' => (readBounds? rest).map fun ((least, most), rest) => (.repeated least most, dropLazy rest)
    | '[' =>
      let (o, rest) := openSet rest
      (readSet? [] o rest).map fun ((s, depth), rest) => (.set s depth, rest)
    | _ => some (.letter c, rest)

def patternPieces? (t : Text) : Option (List PatternPiece) :=
  if t = [] then some []
  else match readPiece? t with
    | none => none
    | some (piece, rest) =>
      if _ : rest.length < t.length then (patternPieces? rest).map (piece :: ·) else none
  termination_by t.length

def groupNames (pieces : List PatternPiece) : List Text :=
  pieces.filterMap fun
    | .openKept name => name
    | _ => none

/-! ## Putting pieces together -/

/-- A part of an expression and how deep it is nested. Flags are a part that cannot be repeated. -/
structure PatternPart where
  pattern : Pattern
  depth : Nat
  isFlags : Bool
  deriving DecidableEq, Repr

/-- Parts in a row are one level of their own, and so are the branches of an alternative. -/
def depthOver (parts : List PatternPart) : Nat := (parts.map (·.depth)).foldl max 0 + 1

def sequence : List Pattern → Pattern
  | [] => .empty
  | [p] => p
  | p :: q :: rest => .seq p (sequence (q :: rest))

def inSequence : List PatternPart → PatternPart
  | [] => ⟨.empty, 0, false⟩
  | [part] => part
  | parts => ⟨sequence (parts.map (·.pattern)), depthOver parts, false⟩

def inBranches (first : PatternPart) : List PatternPart → PatternPart
  | [] => first
  | more => ⟨more.foldl (fun p part => .alt p part.pattern) first.pattern, depthOver (first :: more), false⟩

/-- A group that is still open: the flags around it, whether its part of a match is kept, the branches
before the last bar, and the parts since then, last first in both. -/
structure OpenGroup where
  outerFlags : PatternFlags
  isKept : Bool
  branches : List PatternPart
  parts : List PatternPart
  deriving DecidableEq, Repr

namespace OpenGroup

def outermost : OpenGroup := ⟨.off, false, [], []⟩

def add (g : OpenGroup) (part : PatternPart) : OpenGroup := { g with parts := part :: g.parts }

def bar (g : OpenGroup) : OpenGroup := { g with branches := inSequence g.parts.reverse :: g.branches, parts := [] }

def inside (g : OpenGroup) : PatternPart :=
  match g.bar.branches.reverse with
  | [] => inSequence []
  | first :: more => inBranches first more

def closed (g : OpenGroup) : PatternPart :=
  ⟨if g.isKept then .group g.inside.pattern else g.inside.pattern, g.inside.depth + 1, false⟩

def repeatLast? (g : OpenGroup) (least : Nat) (most : Option Nat) : Option OpenGroup :=
  match g.parts with
  | part :: parts =>
    if part.isFlags then none
    else some { g with parts := ⟨part.pattern.repeats least most, part.depth + 1, false⟩ :: parts }
  | [] => none

end OpenGroup

def PatternPiece.meaning? (flags : PatternFlags) : PatternPiece → Option PatternPart
  | letter c => some ⟨.letter flags.anyCase c, 0, false⟩
  | dot => some ⟨.oneOf false (if flags.dotAll then anyChar else notLineFeed), 0, false⟩
  | set s depth => some ⟨.oneOf flags.anyCase s, depth, false⟩
  | lineStart => some ⟨.place (if flags.lines then .lineStart else .textStart), 0, false⟩
  | lineEnd => some ⟨.place (if flags.lines then .lineEnd else .textEnd), 0, false⟩
  | place p => some ⟨.place p, 0, false⟩
  | _ => none

/-- Puts pieces together. A repeat sign applies to the part before it. -/
def assemble? (outer : List OpenGroup) (flags : PatternFlags) (g : OpenGroup) :
    List PatternPiece → Option PatternPart
  | [] => if outer = [] then some g.inside else none
  | .repeated least most :: rest =>
    match g.repeatLast? least most with
    | some g => assemble? outer flags g rest
    | none => none
  | .bar :: rest => assemble? outer flags g.bar rest
  | .openKept _ :: rest => assemble? (g :: outer) flags ⟨flags, true, [], []⟩ rest
  | .openGroup change :: rest => assemble? (g :: outer) (change.apply flags) ⟨flags, false, [], []⟩ rest
  | .closeGroup :: rest =>
    match outer with
    | around :: outer => assemble? outer g.outerFlags (around.add g.closed) rest
    | [] => none
  | .flags change :: rest => assemble? outer (change.apply flags) (g.add ⟨.empty, 0, true⟩) rest
  | piece :: rest =>
    match piece.meaning? flags with
    | some part => assemble? outer flags (g.add part) rest
    | none => none

def greatestDepth : Nat := 250

def Pattern.read? (t : Text) : Option Pattern :=
  match patternPieces? t with
  | none => none
  | some pieces =>
    if !(groupNames pieces).Nodup then none
    else match assemble? [] .off .outermost pieces with
      | none => none
      | some whole =>
        if whole.depth ≤ greatestDepth && !whole.pattern.isTooLarge then some whole.pattern else none

end Notebook
