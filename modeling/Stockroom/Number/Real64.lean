/-!
# 64-bit real numbers

A real is not a number, or it has a sign and a rank. The rank counts the magnitudes from zero
upwards: equal ranks are equal magnitudes, a larger rank is a larger magnitude, and the last rank is
infinity.
-/

namespace Stockroom.Number

/-- The number of magnitudes with one exponent. -/
def binade : Nat := Nat.pow 2 52

/-- The rank behind that of the largest finite magnitude. -/
def infinityRank : Nat := 2047 * binade

/-- A 64-bit real. All that is not a number is one value. -/
inductive Real64 where
  | nan
  | signed (negative : Bool) (rank : Fin (infinityRank + 1))
  deriving DecidableEq

namespace Real64

def ofRank (negative : Bool) (rank : Nat) : Real64 :=
  .signed negative ⟨min rank infinityRank, by omega⟩

def zero (negative : Bool) : Real64 := ofRank negative 0

def infinity (negative : Bool) : Real64 := ofRank negative infinityRank

def isNan : Real64 → Bool
  | .nan => true
  | .signed _ _ => false

def isFinite : Real64 → Bool
  | .nan => false
  | .signed _ rank => decide (rank.val < infinityRank)

/-- Where a real stands on the line. The two zeros stand together. -/
def key : Real64 → Int
  | .nan => -(infinityRank : Int) - 1
  | .signed true rank => -(rank.val : Int)
  | .signed false rank => rank.val

/-- Numeric equality: the zeros are equal, and what is not a number equals nothing. -/
def same (a b : Real64) : Bool := !a.isNan && !b.isNan && decide (a.key = b.key)

/-- Numeric order. What is not a number comes first. -/
def le (a b : Real64) : Bool := decide (a.key ≤ b.key)

def isNonneg (a : Real64) : Bool := !a.isNan && decide (0 ≤ a.key)

/-! ## Magnitudes -/

/-- The magnitude of a finite rank is the first number times two to the second. -/
def magnitude (rank : Nat) : Nat × Int :=
  if rank < binade then (rank, -1074)
  else (binade + rank % binade, (rank / binade : Nat) - 1075)

/-- Rounds a quotient to the nearest natural number, a half to the even one. -/
def roundHalfEven (num den : Nat) : Nat :=
  let q := num / den
  let twice := 2 * (num % den)
  if twice < den then q else if den < twice then q + 1 else q + q % 2

/-- The quotient of a natural number by a power of two. -/
def shifted (num den : Nat) (exponent : Int) : Nat × Nat :=
  if 0 ≤ exponent then (num, den * Nat.pow 2 exponent.toNat)
  else (num * Nat.pow 2 (-exponent).toNat, den)

/-- The exponent at which a quotient has 53 binary digits, or the least exponent. -/
def exponentOf (num den : Nat) : Int :=
  let guess : Int := (num.log2 : Int) - den.log2
  let (n, d) := shifted num den guess
  max (if d ≤ n then guess - 52 else guess - 53) (-1074)

/-- The rank nearest to a quotient, of two equally near ones the even one. -/
def nearestRank (num den : Nat) : Nat :=
  if num = 0 then 0
  else
    let exponent := exponentOf num den
    let (n, d) := shifted num den exponent
    min ((exponent + 1074).toNat * binade + roundHalfEven n d) infinityRank

def ofRatio (negative : Bool) (num den : Nat) : Real64 := ofRank negative (nearestRank num den)

def ofInt (n : Int) : Real64 := ofRatio (decide (n < 0)) n.natAbs 1

/-! ## Integers -/

/-- The integer that a real equals, if it equals one. -/
def toInt? : Real64 → Option Int
  | .nan => none
  | .signed negative rank =>
    if rank.val < infinityRank then
      let (m, exponent) := magnitude rank.val
      let sign : Int := if negative then -1 else 1
      if 0 ≤ exponent then some (sign * (m * Nat.pow 2 exponent.toNat : Nat))
      else
        let unit := Nat.pow 2 (-exponent).toNat
        if m % unit = 0 then some (sign * (m / unit : Nat)) else none
    else none

/-! ## Stored reals -/

/-- A column keeps one zero. -/
def stored (a : Real64) : Real64 := if a.key = 0 then zero false else a

theorem le_trans {a b c : Real64} (hab : a.le b = true) (hbc : b.le c = true) :
    a.le c = true := by
  simp only [le, decide_eq_true_eq] at *
  omega

theorem le_total (a b : Real64) : (a.le b || b.le a) = true := by
  simp only [le, Bool.or_eq_true, decide_eq_true_eq]
  omega

theorem key_stored (a : Real64) : a.stored.key = a.key := by
  unfold stored
  split
  · next h => rw [h]; rfl
  · rfl

end Real64

end Stockroom.Number
