import Stockroom.Number.Real64

/-!
# Shortest digits

The fewest decimal digits that are read back as the same real, and of those the nearest. The
candidates for a number of digits are the two neighbours of the real on that decimal grid.
-/

namespace Stockroom.Number

/-- Decimal digits and the exponent of the first one: `d.ddd` times ten to `exponent`. -/
structure Decimal where
  digits : Nat
  exponent : Int
  deriving DecidableEq

def digitCount (n : Nat) : Nat := (Nat.toDigits 10 n).length

/-- Every finite magnitude is a whole number of this fraction's units. -/
def unitPlaces : Nat := 1100

/-- A finite magnitude in units of ten to minus `unitPlaces`. -/
def inUnits (rank : Nat) : Nat :=
  let (m, exponent) := Real64.magnitude rank
  if 0 ≤ exponent then m * Nat.pow 2 exponent.toNat * Nat.pow 10 unitPlaces
  else m * Nat.pow 10 unitPlaces / Nat.pow 2 (-exponent).toNat

/-- The nearer of two neighbours on a grid, of two equally near ones the even one. -/
def nearer (step value low : Nat) : Nat :=
  let below := value - low * step
  let above := (low + 1) * step - value
  if below < above then low else if above < below then low + 1 else low + low % 2

/-- The neighbour with `count` digits that is read back, if one is. -/
def candidate? (rank value width count : Nat) : Option Nat :=
  let step := Nat.pow 10 (width - count)
  let low := value / step
  let fits := fun d => Real64.nearestRank (d * step) (Nat.pow 10 unitPlaces) == rank
  match fits low, fits (low + 1) with
  | true, true => some (nearer step value low)
  | true, false => some low
  | false, true => some (low + 1)
  | false, false => none

/-- The first hit on the grids from `count` digits upwards, or else all digits of the value. -/
def search (rank value width : Nat) : (tries count : Nat) → Nat × Nat
  | 0, _ => (value, width)
  | tries + 1, count =>
    match candidate? rank value width count with
    | some d => (d, count)
    | none => search rank value width tries (count + 1)

def dropZeros : (fuel : Nat) → Nat → Nat
  | 0, n => n
  | fuel + 1, n => if n % 10 = 0 ∧ n ≠ 0 then dropZeros fuel (n / 10) else n

/-- The shortest decimal of a finite rank that is not zero. -/
def shortest (rank : Nat) : Decimal :=
  let value := inUnits rank
  let width := digitCount value
  let (digits, count) := search rank value width 17 1
  let carry : Int := (digitCount digits : Int) - count
  ⟨dropZeros (digitCount digits) digits, (width : Int) - 1 - unitPlaces + carry⟩

end Stockroom.Number
