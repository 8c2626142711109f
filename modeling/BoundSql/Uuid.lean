import BoundSql.Number.Digits

/-!
# UUIDs

A UUID is 128 bits, written as five groups of hexadecimal digits with hyphens between them. It is
read in that form, also in braces or after `urn:uuid:`, and as 32 digits without hyphens.
-/

namespace BoundSql

/-- A UUID: sixteen bytes. -/
structure Uuid where
  bytes : List UInt8
  length_eq : bytes.length = 16
deriving DecidableEq

/-- Why text or bytes are no UUID. -/
inductive UuidFault where
  /-- The count of bytes is not sixteen. -/
  | byteLength (found : Nat)
  /-- The length of the text fits no form. -/
  | length (found : Nat)
  | character (c : Char) (index : Nat)
  | groupCount (found : Nat)
  | groupLength (group expected found : Nat)
deriving DecidableEq, Repr

/-- The wording of a fault. -/
def UuidFault.message : UuidFault → String
  | byteLength found => "invalid length: expected 16 bytes, found " ++ toString found
  | length found => "invalid length: found " ++ toString found
  | character c index =>
    "invalid character: found `" ++ c.toString ++ "` at " ++ toString index
  | groupCount found => "invalid group count: expected 5, found " ++ toString found
  | groupLength group expected found =>
    "invalid group length in group " ++ toString group ++ ": expected " ++ toString expected ++
      ", found " ++ toString found

namespace Uuid

open Number

/-- The UUID with these bytes, if there are sixteen. -/
def ofBytes (bytes : List UInt8) : Except UuidFault Uuid :=
  if h : bytes.length = 16 then .ok ⟨bytes, h⟩ else .error (.byteLength bytes.length)

/-! ## Writing -/

/-- The UUID in five groups with hyphens between them. -/
def text (u : Uuid) : String :=
  let part (first count : Nat) : List Char := hexText ((u.bytes.drop first).take count)
  String.ofList
    (part 0 4 ++ '-' :: part 4 2 ++ '-' :: part 6 2 ++ '-' :: part 8 2 ++ '-' :: part 10 6)

/-! ## Reading -/

/-- The lengths of the groups. -/
def groupLengths : List Nat := [8, 4, 4, 4, 12]

/-- The digits of groups of given lengths, without the hyphens between them. -/
def groupDigits? : List Nat → List Char → Option (List Char)
  | [], cs => if cs.isEmpty then some [] else none
  | [n], cs => if cs.length = n then some cs else none
  | n :: lengths, cs =>
    match cs.drop n with
    | '-' :: rest => (groupDigits? lengths rest).map (cs.take n ++ ·)
    | _ => none

/-- The text inside braces. -/
def inBraces? : List Char → Option (List Char)
  | '\x7b' :: rest => if rest.getLast? = some '\x7d' then some rest.dropLast else none
  | _ => none

/-- The text after `urn:uuid:`, whose letters may be of either case. -/
def afterUrn? (cs : List Char) : Option (List Char) :=
  if (cs.take 9).map Char.toLower = "urn:uuid:".toList then some (cs.drop 9) else none

/-- The 36 bytes where the five groups of a text of this many bytes are looked for. -/
def hyphenated? (size : Nat) (cs : List Char) : Option (List Char) :=
  if size = 36 then some cs
  else if size = 38 then inBraces? cs
  else if size = 45 then afterUrn? cs
  else none

/-- The sixteen bytes written in one of the forms. -/
def read? (size : Nat) (cs : List Char) : Option (List UInt8) :=
  match hyphenated? size cs with
  | some inner => (groupDigits? groupLengths inner).bind hexBytes?
  | none => if size = 32 then hexBytes? cs else none

/-- The byte positions of the hyphens, up to the first character that is neither a hyphen nor a
hexadecimal digit. -/
def hyphens (index : Nat) : List Char → Except UuidFault (List Nat)
  | [] => .ok []
  | c :: rest =>
    if c = '-' then (hyphens (index + 1) rest).map (index :: ·)
    else if (hexDigit? c).isSome then hyphens (index + 1) rest
    else .error (.character c index)

/-- The first group whose hyphen is not where it belongs, or else the last group. -/
def misplacedGroup (size : Nat) : List (Nat × Nat × Nat) → List Nat → UuidFault
  | (group, start, length) :: groups, position :: positions =>
    if position = start + length then misplacedGroup size groups positions
    else .groupLength group length (position - start)
  | (group, start, length) :: _, [] => .groupLength group length (size - start)
  | [], _ => .length size

/-- What is wrong with groups that start `start` bytes into a text of `size` bytes. Positions of
characters count from the start of the text, positions of hyphens from the start of the groups. -/
def groupFault (size start : Nat) (cs : List Char) : UuidFault :=
  match hyphens start cs with
  | .error f => f
  | .ok positions =>
    if positions.length ≠ 4 then .groupCount (positions.length + 1)
    else
      misplacedGroup size [(0, 0, 8), (1, 9, 4), (2, 14, 4), (3, 19, 4), (4, 24, 12)]
        (positions.map (· - start))

/-- What is wrong with text that is in none of the forms. No form is longer than 45 bytes. The 36
bytes that could hold the groups are judged by themselves; text of any other size is judged as a
whole, and with neither a wrapping nor a hyphen it is taken for digits of a wrong count. -/
def fault (s : String) : UuidFault :=
  let size := s.utf8ByteSize
  let cs := s.toList
  if size > 45 then .length size
  else match hyphenated? size cs, inBraces? cs, afterUrn? cs with
    | some inner, _, _ => groupFault 36 0 inner
    | none, some inner, _ => groupFault size 1 inner
    | none, none, some inner => groupFault size 9 inner
    | none, none, none =>
      match hyphens 0 cs with
      | .ok [] => .length size
      | _ => groupFault size 0 cs

/-- Reads a UUID in any of its forms. -/
def parse (s : String) : Except UuidFault Uuid :=
  match read? s.utf8ByteSize s.toList with
  | none => .error (fault s)
  | some bytes => if h : bytes.length = 16 then .ok ⟨bytes, h⟩ else .error (fault s)

end Uuid

end BoundSql
