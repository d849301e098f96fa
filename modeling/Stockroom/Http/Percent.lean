import Stockroom.Text.Digit
import Stockroom.Text.Utf8

/-!
# Percent encoding

A percent sign and two digits to base sixteen stand for a byte. `decode` reads the bytes of every
run of ASCII characters as UTF-8 and leaves other characters as they are. `encode` writes the bytes
of every character that a location may not hold.
-/

namespace Stockroom.Http.Percent

open Text

def isAscii (c : Char) : Bool := c.toNat < 128

/-- The bytes of a run of ASCII characters. A percent sign without two digits stands for itself. -/
def bytes : List Char → Bytes
  | [] => []
  | '%' :: a :: b :: rest =>
    match asciiHexDigitValue a, asciiHexDigitValue b with
    | some high, some low => (16 * high + low).toUInt8 :: bytes rest
    | _, _ => '%'.toNat.toUInt8 :: bytes (a :: b :: rest)
  | c :: rest => c.toNat.toUInt8 :: bytes rest

/-- Bytes that are no UTF-8 become the replacement character. -/
def decodeRun (run : List Char) : List Char :=
  if run.all isAscii then (decodeLossy (bytes run)).toList else run

def decode (s : List Char) : List Char :=
  (s.splitBy fun a b => isAscii a == isAscii b).flatMap decodeRun

/-- The characters besides letters and digits that a location holds as they are. -/
def locationMarks : List Char := "_.-~:/%#?=@[]!$&'()*+,;".toList

def upperHexDigit (n : Nat) : Char := (Nat.digitChar n).toUpper

def encodeByte (b : UInt8) : List Char :=
  let c := Char.ofNat b.toNat
  if b < 128 && (c.isAlphanum || locationMarks.contains c) then [c]
  else ['%', upperHexDigit (b.toNat / 16), upperHexDigit (b.toNat % 16)]

/-- A text whose characters are the bytes of another. -/
def byteText (s : String) : String :=
  String.ofList ((utf8 s).map fun b => Char.ofNat b.toNat)

def encode (s : String) : String := String.ofList ((utf8 s).flatMap encodeByte)

end Stockroom.Http.Percent
