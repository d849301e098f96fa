import Stockroom.Uuid

/-!
# Identifiers in a payload

A payload spells an identifier with 32 digits, with the five groups, with the groups in braces, or
with the groups after `urn:uuid:`. Any other text has a first fault, which the message names. Places
and lengths in it are counted in bytes.
-/

namespace Stockroom.Uuid

open Number Text

/-- What is wrong with a text that spells no identifier. Groups are counted from zero. -/
inductive TextFault where
  | character (found : Char) (position : Nat)
  | length (bytes : Nat)
  | groupCount (found : Nat)
  | groupLength (group expected found : Nat)
  deriving DecidableEq

def TextFault.message : TextFault → String
  | .character found position =>
    "invalid character: found \x60" ++ String.singleton found ++ "\x60 at " ++ toString position
  | .length bytes => "invalid length: found " ++ toString bytes
  | .groupCount found => "invalid group count: expected 5, found " ++ toString found
  | .groupLength group expected found =>
    "invalid group length in group " ++ toString group ++ ": expected " ++ toString expected ++
      ", found " ++ toString found

def urn : List Char := "urn:uuid:".toList

def openBrace : Char := Char.ofNat 0x7B

def closeBrace : Char := Char.ofNat 0x7D

/-- What a spelling puts around the digits. -/
inductive Wrapping where
  | plain
  | braces
  | urn
  deriving DecidableEq

def unwrap (s : List Char) : Wrapping × List Char :=
  if s.head? = some openBrace ∧ s.getLast? = some closeBrace ∧ 2 ≤ s.length then
    (.braces, (s.drop 1).dropLast)
  else if urn.isPrefixOf s then (.urn, s.drop urn.length)
  else (.plain, s)

/-! ## Reading -/

def groupLengths : List Nat := [8, 4, 4, 4, 12]

/-- The digits of five groups with a hyphen between two of them. -/
def groupedDigits? (s : List Char) : Option (List Nat) :=
  if (s.splitOn '-').map List.length = groupLengths then
    (s.filter (· != '-')).mapM asciiHexDigitValue
  else none

def plainDigits? (s : List Char) : Option (List Nat) :=
  if s.length = 32 then s.mapM asciiHexDigitValue else none

/-- The digits of a text in one of the four spellings. -/
def strictDigits? (s : List Char) : Option (List Nat) :=
  (plainDigits? s).or (groupedDigits? (unwrap s).2)

/-! ## Faults -/

def byteCount (s : List Char) : Nat := s.foldl (fun n c => n + c.utf8Size) 0

/-- The bytes of five groups and four hyphens. -/
def groupedSize : Nat := 36

/-- The bytes of the longest spelling. -/
def maxSize : Nat := urn.length + groupedSize

/-- A text with the part that its fault is looked for in. -/
structure Framed where
  part : List Char
  /-- The place of the part, where places are counted from. -/
  place : Nat
  /-- The bytes that the last group is measured by. -/
  size : Nat
  /-- Whether the text may be one without groups. -/
  bare : Bool
  deriving DecidableEq

/-- A part as long as five groups is looked at for itself, whatever it begins with. -/
def framed (s : List Char) : Framed :=
  let (wrapping, inner) := unwrap s
  let grouped := if byteCount s = groupedSize then s else inner
  if byteCount grouped = groupedSize then ⟨grouped, 0, groupedSize, false⟩
  else
    match wrapping with
    | .plain => ⟨s, 0, byteCount s, true⟩
    | .braces => ⟨inner, 1, byteCount s, false⟩
    | .urn => ⟨inner, urn.length, byteCount s, false⟩

/-- The character that another one is taken for: its number has eight bits, the low ones. -/
def lowChar (c : Char) : Char := Char.ofNat (c.toNat % 256)

/-- The first character that is taken neither for a digit to base sixteen nor for a hyphen. -/
def badCharacter? : (place : Nat) → List Char → Option TextFault
  | _, [] => none
  | place, c :: rest =>
    if (asciiHexDigitValue (lowChar c)).isSome || lowChar c == '-' then
      badCharacter? (place + c.utf8Size) rest
    else some (.character c place)

/-- The places of what is taken for a hyphen. -/
def hyphenPlaces : (place : Nat) → List Char → List Nat
  | _, [] => []
  | place, c :: rest =>
    let more := hyphenPlaces (place + c.utf8Size) rest
    if lowChar c == '-' then place :: more else more

/-- The first group whose hyphen is not where it should be. The next group starts behind it. -/
def badGroup? : (group start : Nat) → List Nat → (hyphens : List Nat) → Option TextFault
  | group, start, expected :: more, hyphen :: hyphens =>
    if hyphen = start + expected then badGroup? (group + 1) (hyphen + 1) more hyphens
    else some (.groupLength group expected (hyphen - start))
  | _, _, _, _ => none

def lastLength : Nat := 12

/-- The fault of the last group. It is measured by all bytes but those of the groups and hyphens
that stand in front of it. -/
def lastGroupFault (size : Nat) : TextFault :=
  .groupLength 4 lastLength (size - (groupedSize - lastLength))

/-- Characters are looked at first, then the number of groups, then their lengths. -/
def Framed.fault (f : Framed) : TextFault :=
  let hyphens := hyphenPlaces 0 f.part
  match badCharacter? f.place f.part with
  | some fault => fault
  | none =>
    if hyphens = [] ∧ f.bare then .length f.size
    else if hyphens.length ≠ 4 then .groupCount (hyphens.length + 1)
    else (badGroup? 0 0 groupLengths hyphens).getD (lastGroupFault f.size)

/-- The fault of a text that spells no identifier. One that is longer than every spelling is not
looked into. -/
def textFault (s : List Char) : TextFault :=
  if maxSize < byteCount s then .length (byteCount s) else (framed s).fault

def ofStrictChars (s : List Char) : Except TextFault Uuid :=
  match strictDigits? s with
  | some ds => .ok ⟨.ofNat 128 (ofDigits 16 ds)⟩
  | none => .error (textFault s)

def ofStrictText (s : String) : Except TextFault Uuid := ofStrictChars s.toList

end Stockroom.Uuid
