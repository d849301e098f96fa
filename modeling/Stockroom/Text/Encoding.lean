import Stockroom.Text.Utf8

/-!
# The encoding of a JSON text

A JSON text comes in UTF-8, UTF-16 or UTF-32. A byte order mark tells which, and without one the
places of the zero bytes among the first four.
-/

namespace Stockroom.Text

inductive Encoding where
  | utf8
  | utf16 (bigEndian : Bool)
  | utf32 (bigEndian : Bool)
  deriving DecidableEq

/-- The encoding that a byte order mark names, and the bytes behind the mark. -/
def markedEncoding? : List Nat → Option (Encoding × List Nat)
  | 0x00 :: 0x00 :: 0xFE :: 0xFF :: rest => some (.utf32 true, rest)
  | 0xFF :: 0xFE :: 0x00 :: 0x00 :: rest => some (.utf32 false, rest)
  | 0xFE :: 0xFF :: rest => some (.utf16 true, rest)
  | 0xFF :: 0xFE :: rest => some (.utf16 false, rest)
  | 0xEF :: 0xBB :: 0xBF :: rest => some (.utf8, rest)
  | _ => none

/-- The encoding that the zero bytes at the front give away. -/
def guessedEncoding : List Nat → Encoding
  | a :: b :: c :: d :: _ =>
    if a = 0 then (if b = 0 then .utf32 true else .utf16 true)
    else if b = 0 then (if c = 0 ∧ d = 0 then .utf32 false else .utf16 false)
    else .utf8
  | [a, b] => if a = 0 then .utf16 true else if b = 0 then .utf16 false else .utf8
  | _ => .utf8

def detectEncoding (bs : List Nat) : Encoding × List Nat :=
  (markedEncoding? bs).getD (guessedEncoding bs, bs)

/-- Pairs of bytes as numbers. One byte too many spoils them all. -/
def units16? (bigEndian : Bool) : List Nat → Option (List Nat)
  | [] => some []
  | [_] => none
  | a :: b :: rest =>
    (units16? bigEndian rest).map ((if bigEndian then a * 256 + b else b * 256 + a) :: ·)

/-- Joins surrogate pairs. A surrogate without its partner stays as it is. -/
def joinUnits : List Nat → Points
  | [] => []
  | [n] => [n]
  | high :: low :: rest =>
    if isHighSurrogate high && isLowSurrogate low then joinSurrogates high low :: joinUnits rest
    else high :: joinUnits (low :: rest)

/-- Groups of four bytes as code points. -/
def units32? (bigEndian : Bool) : List Nat → Option (List Nat)
  | [] => some []
  | a :: b :: c :: d :: rest =>
    let n := if bigEndian then ((a * 256 + b) * 256 + c) * 256 + d
      else ((d * 256 + c) * 256 + b) * 256 + a
    if n < 0x110000 then (units32? bigEndian rest).map (n :: ·) else none
  | _ => none

/-- The text of some bytes, if they are well formed in the encoding that they show. -/
def decodeText? (bs : Bytes) : Option Points :=
  match detectEncoding (bs.map UInt8.toNat) with
  | (.utf8, rest) => decode? (rest.map Nat.toUInt8)
  | (.utf16 bigEndian, rest) => (units16? bigEndian rest).map joinUnits
  | (.utf32 bigEndian, rest) => units32? bigEndian rest

end Stockroom.Text
