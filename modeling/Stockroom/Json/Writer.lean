import Stockroom.Json
import Stockroom.Number.Layout
import Stockroom.Text.SurrogateRun

/-!
# Writing JSON

Bodies are compact. A string escapes the quote, the backslash and the controls below the space.
Reals have the layout of the wire. A body is UTF-8, so `body` refuses a value with a surrogate that
stands alone, while `write` escapes it.
-/

namespace Stockroom.Json

open Number Text

def unicodeEscape (n : Nat) : List Char := '\\' :: 'u' :: hexDigits 4 n

/-- The letter that stands behind the backslash for a control. -/
def controlLetter? (n : Nat) : Option Char :=
  [(8, 'b'), (9, 't'), (10, 'n'), (12, 'f'), (13, 'r')].lookup n

/-- A code point in a string. Beyond ASCII it stands as it is. -/
def writePoint (n : Nat) : Points :=
  match controlLetter? n with
  | some letter => [backslash, letter.toNat]
  | none =>
    if n = doubleQuote ∨ n = backslash then [backslash, n]
    else if n < 32 then (unicodeEscape n).map Char.toNat
    else [n]

def writeString (p : Points) : Points := doubleQuote :: p.flatMap writePoint ++ [doubleQuote]

/-- Texts with commas between them, and no blank. -/
def commaSeparated : List Points → Points
  | [] => []
  | [s] => s
  | s :: rest => s ++ ','.toNat :: commaSeparated rest

mutual

/-- The text of a value as code points, surrogates in its strings included. -/
def writePoints : Json → Points
  | .null => "null"
  | .bool true => "true"
  | .bool false => "false"
  | .integer n => toString n
  | .real x => Layout.wire.text x
  | .string p => writeString p
  | .array items => '['.toNat :: commaSeparated (writeItems items) ++ [']'.toNat]
  | .object members => 0x7B :: commaSeparated (writeMembers members) ++ [0x7D]

def writeItems : List Json → List Points
  | [] => []
  | item :: rest => writePoints item :: writeItems rest

def writeMembers : List (Points × Json) → List Points
  | [] => []
  | (key, value) :: rest => (writeString key ++ ':'.toNat :: writePoints value) :: writeMembers rest

end

/-- The text of a value in a body. -/
def body (j : Json) : Except SurrogateRun String := toText j.writePoints

/-- A point of the text, which has to be a character to stand in it. -/
def escapeSurrogate (n : Nat) : List Char :=
  if isSurrogate n then unicodeEscape n else [Char.ofNat n]

/-- The text of a value, whatever its strings hold. -/
def write (j : Json) : String := String.ofList (j.writePoints.flatMap escapeSurrogate)

/-! ## Values in messages -/

mutual

/-- A value as a message shows it, which is not JSON. -/
def shown : Json → String
  | .null => "None"
  | .bool true => "True"
  | .bool false => "False"
  | .integer n => toString n
  | .real x => Layout.shown.text x
  | .string p => quoted p
  | .array items => "[" ++ ", ".intercalate (shownItems items) ++ "]"
  | .object members => "\x7b" ++ ", ".intercalate (shownMembers members) ++ "\x7d"

def shownItems : List Json → List String
  | [] => []
  | item :: rest => item.shown :: shownItems rest

def shownMembers : List (Points × Json) → List String
  | [] => []
  | (key, value) :: rest => (quoted key ++ ": " ++ value.shown) :: shownMembers rest

end

end Stockroom.Json
