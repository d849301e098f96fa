import Stockroom.Number.Digits
import Stockroom.Text.Blank
import Stockroom.Text.Digit
import Stockroom.Text.Points
import Stockroom.Text.Replace

/-!
# Identifiers

A UUID is a 128-bit number. Its text has 32 digits to base sixteen in groups of 8, 4, 4, 4 and 12.
A path or a query may spell it in many ways; `ofText?` reads them all.
-/

namespace Stockroom

/-- An identifier is its 128 bits. -/
structure Uuid where
  value : BitVec 128
  deriving DecidableEq

namespace Uuid

open Number Text

/-- The digits to base sixteen, in lower case. -/
def digits (u : Uuid) : List Char := hexDigits 32 u.value.toNat

def hyphenate (ds : List Char) : List Char :=
  ds.take 8 ++ '-' :: (ds.drop 8).take 4 ++ '-' :: (ds.drop 12).take 4 ++
    '-' :: (ds.drop 16).take 4 ++ '-' :: ds.drop 20

/-- The canonical text, in lower case. -/
def text (u : Uuid) : String := String.ofList (hyphenate u.digits)

def shown (u : Uuid) : String := "UUID('" ++ u.text ++ "')"

def count : Nat := Nat.pow 2 128

def ofNat? (n : Nat) : Option Uuid := if n < count then some ⟨.ofNat 128 n⟩ else none

/-! ## Reading any spelling -/

def withoutWord (word : String) (s : List Char) : List Char := replaceAll word.toList [] s

def isBrace (c : Char) : Bool := c.toNat == 0x7B || c.toNat == 0x7D

/-- What is left of a text without `urn:`, `uuid:`, outer braces and hyphens. -/
def bare (s : List Char) : List Char :=
  (trim isBrace (withoutWord "uuid:" (withoutWord "urn:" s))).filter (· != '-')

/-- Takes the mark of base sixteen off the front, with an underscore that may follow it. -/
def dropBaseMark : List Char → List Char
  | c :: x :: rest =>
    if digitValue c = some 0 ∧ (x = 'x' ∨ x = 'X') then
      match rest with
      | '_' :: more => more
      | more => more
    else c :: x :: rest
  | s => s

/-- A number to base sixteen, with sign, base mark, blanks around it and underscores in it. -/
def hexOfText? (s : List Char) : Option Int :=
  let (negative, body) := splitSign (trim isBlank s)
  (grouped hexDigitValue (dropBaseMark body)).map fun ds =>
    applySign negative (ofDigits 16 ds)

/-- An identifier in any spelling with 32 characters besides the decoration. -/
def ofChars? (s : List Char) : Option Uuid :=
  let body := bare s
  if body.length = 32 then
    (hexOfText? body).bind fun n => if n < 0 then none else ofNat? n.toNat
  else none

/-- The identifier that a text spells for a request, which is lenient. -/
def ofText? (s : String) : Option Uuid := ofChars? s.toList

def ofPoints? (p : Points) : Option Uuid := readPoints? ofChars? p

theorem digits_length (u : Uuid) : u.digits.length = 32 := hexDigits_length 32 _

end Uuid

end Stockroom
