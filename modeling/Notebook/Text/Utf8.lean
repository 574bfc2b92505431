import Notebook.Text.Basic

/-! # Bytes as text

A character is one to four bytes: a lead byte tells how many follow it and which values the second
one may have, and all after that lie in 80 to BF. Overlong forms and surrogates have no encoding.
-/

namespace Notebook.Utf8

/-! ## One character -/

/-- The number of bytes after a lead byte and the range of the first of them. -/
def follow? (lead : UInt8) : Option (Nat × UInt8 × UInt8) :=
  if 0xC2 ≤ lead && lead ≤ 0xDF then some (1, 0x80, 0xBF)
  else if lead = 0xE0 then some (2, 0xA0, 0xBF)
  else if lead = 0xED then some (2, 0x80, 0x9F)
  else if 0xE1 ≤ lead && lead ≤ 0xEF then some (2, 0x80, 0xBF)
  else if lead = 0xF0 then some (3, 0x90, 0xBF)
  else if lead = 0xF4 then some (3, 0x80, 0x8F)
  else if 0xF1 ≤ lead && lead ≤ 0xF3 then some (3, 0x80, 0xBF)
  else none

def leadBits (count : Nat) (lead : UInt8) : Nat := lead.toNat % Nat.pow 2 (6 - count)

/-- At most `count` bytes that can continue a character, the first of them between `low` and `high`. -/
def tails : Nat → UInt8 → UInt8 → List UInt8 → List UInt8
  | 0, _, _, _ => []
  | _, _, _, [] => []
  | count + 1, low, high, b :: rest =>
    if low ≤ b && b ≤ high then b :: tails count 0x80 0xBF rest else []

/-- Reads the start of some bytes: a character or an ill-formed piece, and the number of bytes after
the lead byte that belong to it. -/
def step (lead : UInt8) (rest : List UInt8) : Option Char × Nat :=
  if lead < 0x80 then (some (Char.ofNat lead.toNat), 0)
  else match follow? lead with
    | none => (none, 0)
    | some (count, low, high) =>
      let found := tails count low high rest
      if found.length = count then
        (some (Char.ofNat (found.foldl (fun n b => 64 * n + (b.toNat - 0x80)) (leadBits count lead))), count)
      else (none, found.length)

/-! ## Texts -/

def decode? : List UInt8 → Option Text
  | [] => some []
  | lead :: rest =>
    match step lead rest with
    | (some c, used) => (decode? (rest.drop used)).map (c :: ·)
    | (none, _) => none
  termination_by bytes => bytes.length
  decreasing_by simp only [List.length_drop, List.length_cons]; omega

/-- The text that bytes encode, with a replacement character for every ill-formed piece. -/
def decodeLossy : List UInt8 → Text
  | [] => []
  | lead :: rest =>
    match step lead rest with
    | (some c, used) => c :: decodeLossy (rest.drop used)
    | (none, used) => '\uFFFD' :: decodeLossy (rest.drop used)
  termination_by bytes => bytes.length
  decreasing_by all_goals (simp only [List.length_drop, List.length_cons]; omega)

/-! ## Lines of bytes -/

def lines : List UInt8 → List (List UInt8)
  | [] => []
  | b :: rest =>
    if b = 10 then [] :: lines rest
    else if b = 13 && rest.head? = some 10 then lines rest
    else match lines rest with
      | [] => [[b]]
      | first :: more => (b :: first) :: more

def encodeChar (c : Char) : List UInt8 := String.utf8EncodeChar c

def encode (t : Text) : List UInt8 := t.flatMap encodeChar

def size (t : Text) : Nat := t.foldl (fun n c => n + c.utf8Size) 0

end Notebook.Utf8
