import Stockroom.Number.Digits
import Stockroom.Text.Blank

/-!
# Integers in a query

An integer is a digit string of any script with an optional sign, blanks around it, and at most
`digitLimit` digits, leading zeros included.
-/

namespace Stockroom.Number

open Text

/-- How many digits the interpreter reads of an integer before it refuses. -/
def digitLimit : Nat := 4300

/-- The digits of an integer with its sign taken off. -/
def natOfText? (s : List Char) : Option Nat :=
  (grouped digitValue s).bind fun ds =>
    if ds.length ≤ digitLimit then some (ofDigits 10 ds) else none

def integerOfText? (s : List Char) : Option Int :=
  let (negative, digits) := splitSign (trim isBlank s)
  (natOfText? digits).map (applySign negative)

/-- The largest integer of 64 bits with a sign, 2 to the 63rd less one. -/
def maxInt64 : Int := 9223372036854775807

/-- Whether an integer is one of 64 bits with a sign. -/
def fitsInt64 (n : Int) : Bool := decide (-maxInt64 - 1 ≤ n ∧ n ≤ maxInt64)

end Stockroom.Number
