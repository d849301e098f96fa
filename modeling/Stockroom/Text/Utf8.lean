import Stockroom.Text.Points

/-!
# UTF-8

Bytes are numbers below 256. `decode` refuses what is malformed, but lets encoded surrogates pass.
`decodeLossy` writes U+FFFD for each longest piece that begins a character and does not end it, and
for each byte that begins none.
-/

namespace Stockroom.Text

abbrev Bytes := List UInt8

/-- The bytes of a code point. A surrogate is written like any other point. -/
def encodePoint (n : Nat) : Bytes :=
  if n < 0x80 then [n.toUInt8]
  else if n < 0x800 then [(0xC0 + n / 64).toUInt8, (0x80 + n % 64).toUInt8]
  else if n < 0x10000 then
    [(0xE0 + n / 4096).toUInt8, (0x80 + n / 64 % 64).toUInt8, (0x80 + n % 64).toUInt8]
  else
    [(0xF0 + n / 262144).toUInt8, (0x80 + n / 4096 % 64).toUInt8, (0x80 + n / 64 % 64).toUInt8,
      (0x80 + n % 64).toUInt8]

def encode (p : Points) : Bytes := p.flatMap encodePoint

def utf8 (s : String) : Bytes := encode (points s)

/-! ## Decoding -/

/-- What a first byte asks for: how many bytes follow, its part of the point, and the range of the
second byte. -/
structure Lead where
  following : Nat
  bits : Nat
  secondFrom : Nat
  secondTo : Nat

/-- The lead bytes. Overlong forms and points beyond U+10FFFF are ruled out by the second byte. -/
def lead? (surrogates : Bool) (b : Nat) : Option Lead :=
  if b < 0x80 then some ⟨0, b, 0, 0⟩
  else if b < 0xC2 then none
  else if b < 0xE0 then some ⟨1, b - 0xC0, 0x80, 0xBF⟩
  else if b = 0xE0 then some ⟨2, 0, 0xA0, 0xBF⟩
  else if b = 0xED then some ⟨2, 0xD, 0x80, if surrogates then 0xBF else 0x9F⟩
  else if b < 0xF0 then some ⟨2, b - 0xE0, 0x80, 0xBF⟩
  else if b = 0xF0 then some ⟨3, 0, 0x90, 0xBF⟩
  else if b < 0xF4 then some ⟨3, b - 0xF0, 0x80, 0xBF⟩
  else if b = 0xF4 then some ⟨3, 4, 0x80, 0x8F⟩
  else none

/-- Reads the bytes that follow a lead: the point so far, how many bytes were good, and whether the
character is complete. -/
def follow : (count lower upper bits good : Nat) → List Nat → Nat × Nat × Bool
  | 0, _, _, bits, good, _ => (bits, good, true)
  | _ + 1, _, _, bits, good, [] => (bits, good, false)
  | count + 1, lower, upper, bits, good, b :: rest =>
    if lower ≤ b ∧ b ≤ upper then follow count 0x80 0xBF (bits * 64 + b % 64) (good + 1) rest
    else (bits, good, false)

/-- The point at the front of some bytes, or none, and how many bytes it takes. -/
def step (surrogates : Bool) (b : Nat) (rest : List Nat) : Option Nat × Nat :=
  match lead? surrogates b with
  | none => (none, 0)
  | some lead =>
    match follow lead.following lead.secondFrom lead.secondTo lead.bits 0 rest with
    | (point, good, true) => (some point, good)
    | (_, good, false) => (none, good)

def decodePieces (surrogates : Bool) : (fuel : Nat) → List Nat → List (Option Nat)
  | 0, _ => []
  | _ + 1, [] => []
  | fuel + 1, b :: rest =>
    let (piece, taken) := step surrogates b rest
    piece :: decodePieces surrogates fuel (rest.drop taken)

def decode? (bs : Bytes) : Option Points :=
  (decodePieces true bs.length (bs.map UInt8.toNat)).mapM id

def replacement : Nat := 0xFFFD

/-- The text of some bytes, with the replacement character for what is no UTF-8. -/
def decodeLossy (bs : Bytes) : String :=
  let ps := decodePieces false bs.length (bs.map UInt8.toNat)
  String.ofList (ps.map fun p => Char.ofNat (p.getD replacement))

end Stockroom.Text
