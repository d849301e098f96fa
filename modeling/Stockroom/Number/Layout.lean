import Stockroom.Number.Shortest

/-!
# How reals are written

A layout says which exponents are written in positions, how many digits a written exponent has at
least, and what stands for the reals that have no digits. Two layouts are in use: `shown` in
messages, and `wire` in response bodies.
-/

namespace Stockroom.Number

structure Layout where
  positionalFrom : Int
  positionalBelow : Int
  exponentDigits : Nat
  infinityText : (negative : Bool) → String
  nanText : String

/-- Messages write positions from 0.0001 up to 1e+16, and exponents with two digits. -/
def Layout.shown : Layout := ⟨-4, 16, 2, fun negative => if negative then "-inf" else "inf", "nan"⟩

/-- Bodies write positions from 0.00001 up to 1e+16, and `null` for what has no digits. -/
def Layout.wire : Layout := ⟨-5, 16, 1, fun _ => "null", "null"⟩

def zeros (n : Nat) : List Char := List.replicate n '0'

/-- The digits of a number, with zeros in front up to a width. -/
def padded (width n : Nat) : List Char :=
  let ds := Nat.toDigits 10 n
  zeros (width - ds.length) ++ ds

/-- A decimal without exponent. The point has a digit on each side. -/
def positional (ds : List Char) (exponent : Int) : List Char :=
  if exponent < 0 then '0' :: '.' :: zeros (-exponent - 1).toNat ++ ds
  else
    let whole := exponent.toNat + 1
    let fraction := ds.drop whole
    ds.take whole ++ zeros (whole - ds.length) ++ '.' ::
      (if fraction.isEmpty then ['0'] else fraction)

/-- A decimal with exponent. The point is left out if no digit follows it. -/
def scientific (width : Nat) (ds : List Char) (exponent : Int) : List Char :=
  let fraction := ds.drop 1
  ds.take 1 ++ (if fraction.isEmpty then [] else '.' :: fraction) ++
    'e' :: (if exponent < 0 then '-' else '+') :: padded width exponent.natAbs

/-- The shortest digits of a finite rank, in positions or with an exponent. -/
def Layout.magnitude (layout : Layout) (rank : Nat) : List Char :=
  if rank = 0 then ['0', '.', '0']
  else
    let d := shortest rank
    let ds := Nat.toDigits 10 d.digits
    if layout.positionalFrom ≤ d.exponent ∧ d.exponent < layout.positionalBelow then
      positional ds d.exponent
    else scientific layout.exponentDigits ds d.exponent

def Layout.text (layout : Layout) : Real64 → String
  | .nan => layout.nanText
  | .signed negative rank =>
    if rank.val = infinityRank then layout.infinityText negative
    else String.ofList ((if negative then ['-'] else []) ++ layout.magnitude rank.val)

end Stockroom.Number
