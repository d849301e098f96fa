import Stockroom.Number.Digits
import Stockroom.Number.Real64
import Stockroom.Text.Blank
import Stockroom.Text.Split

/-!
# Decimal text

A real is written as `inf`, `infinity` or `nan` in any case of letters, or as digits with an
optional point and an optional exponent, and an optional sign in front. Which digits are meant is
the reader's choice: a query takes those of any script, a payload those of ASCII.
-/

namespace Stockroom.Number

open Text

/-- The real nearest to a decimal. Exponents far out of range are not multiplied out. -/
def Real64.ofDecimal (negative : Bool) (ds : List Nat) (exponent : Int) : Real64 :=
  let ds := ds.dropWhile (· == 0)
  let scale : Int := ds.length + exponent
  if ds.isEmpty ∨ scale < -400 then zero negative
  else if 400 < scale then infinity negative
  else
    let n := ofDigits 10 ds
    if 0 ≤ exponent then ofRatio negative (n * Nat.pow 10 exponent.toNat) 1
    else ofRatio negative n (Nat.pow 10 (-exponent).toNat)

/-- The words for reals without digits. -/
def wordOfText? (negative : Bool) (s : List Char) : Option Real64 :=
  let lower := String.ofList (s.map Char.toLower)
  if lower = "inf" ∨ lower = "infinity" then some (.infinity negative)
  else if lower = "nan" then some .nan
  else none

/-- A digit string that may be missing. -/
def optionalDigits (digits : List Char → Option (List Nat)) (s : List Char) :
    Option (List Nat) :=
  if s.isEmpty then some [] else digits s

/-- Digits before and after a point: all of them, and how many stand after it. -/
def pointDigits (digits : List Char → Option (List Nat)) (s : List Char) :
    Option (List Nat × Nat) := do
  let (whole, fraction) := splitFirst (· == '.') s
  let before ← optionalDigits digits whole
  let behind ← optionalDigits digits (fraction.getD [])
  if before.isEmpty && behind.isEmpty then none else some (before ++ behind, behind.length)

def exponentValue (digits : List Char → Option (List Nat)) : Option (List Char) → Option Int
  | none => some 0
  | some s =>
    let (negative, rest) := splitSign s
    (digits rest).map fun ds => applySign negative (ofDigits 10 ds)

/-- A real in text without blanks around it. -/
def realOfWord? (digits : List Char → Option (List Nat)) (s : List Char) : Option Real64 :=
  let (negative, body) := splitSign s
  match wordOfText? negative body with
  | some x => some x
  | none => do
    let (mantissa, power) := splitFirst (fun c => c == 'e' || c == 'E') body
    let (ds, places) ← pointDigits digits mantissa
    let exponent ← exponentValue digits power
    some (.ofDecimal negative ds (exponent - places))

/-- A real in a query: digits of any script, underscores between them, blanks around it. -/
def realOfText? (s : List Char) : Option Real64 :=
  realOfWord? (grouped digitValue) (trim isBlank s)

end Stockroom.Number
