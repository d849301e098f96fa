import Stockroom.Number.Integer
import Stockroom.Number.Real64

/-!
# Amounts

An amount is an integer of any size or a real. It equals a real only if both are the same number: an
integer is not rounded before it is compared.
-/

namespace Stockroom.Number

/-- A number that came from outside as an integer or as a real. -/
inductive Amount where
  | whole (n : Int)
  | real (x : Real64)
  deriving DecidableEq

namespace Amount

/-- The nearest real, unless an integer lies beyond all of them. -/
def real? : Amount → Option Real64
  | .whole n => if (Real64.ofInt n).isFinite then some (.ofInt n) else none
  | .real x => some x

/-- Whether the number is the same, however it came. -/
def equals : Amount → Real64 → Bool
  | .whole n, x => x.toInt? == some n
  | .real y, x => x.same y

/-- Whether the store takes the amount. An integer has to fit in 64 bits. -/
def fits : Amount → Bool
  | .whole n => fitsInt64 n
  | .real _ => true

end Amount

end Stockroom.Number
