import Stockroom.Problem
import Stockroom.Uuid.Strict

/-!
# Faults of a payload

What can be wrong with one value of a payload, and where it stands.
-/

namespace Stockroom.Payload

inductive Fault where
  | missing
  | unexpected
  | notRecord (model : String)
  | notText
  | notUnicode
  | emptyText
  | notReal
  | notRealText
  | notInteger
  | notIntegerText
  | integerTooLarge
  | fraction
  | notFinite
  | below (least : Nat)
  | notId
  | idText (fault : Uuid.TextFault)
  deriving DecidableEq

/-- The name under which a client knows the fault. -/
def Fault.kind : Fault → String
  | .missing => "missing"
  | .unexpected => "extra_forbidden"
  | .notRecord _ => "model_type"
  | .notText => "string_type"
  | .notUnicode => "string_unicode"
  | .emptyText => "string_too_short"
  | .notReal => "float_type"
  | .notRealText => "float_parsing"
  | .notInteger => "int_type"
  | .notIntegerText => "int_parsing"
  | .integerTooLarge => "int_parsing_size"
  | .fraction => "int_from_float"
  | .notFinite => "finite_number"
  | .below _ => "greater_than_equal"
  | .notId => "uuid_type"
  | .idText _ => "uuid_parsing"

/-- What the client is told, in the words of the library that checks payloads. -/
def Fault.message : Fault → String
  | .missing => "Field required"
  | .unexpected => "Extra inputs are not permitted"
  | .notRecord model => "Input should be a valid dictionary or instance of " ++ model
  | .notText => "Input should be a valid string"
  | .notUnicode =>
    "Input should be a valid string, unable to parse raw data as a unicode string"
  | .emptyText => "String should have at least 1 character"
  | .notReal => "Input should be a valid number"
  | .notRealText => "Input should be a valid number, unable to parse string as a number"
  | .notInteger => "Input should be a valid integer"
  | .notIntegerText => "Input should be a valid integer, unable to parse string as an integer"
  | .integerTooLarge => "Unable to parse input string as an integer, exceeded maximum size"
  | .fraction => "Input should be a valid integer, got a number with a fractional part"
  | .notFinite => "Input should be a finite number"
  | .below least => "Input should be greater than or equal to " ++ toString least
  | .notId => "UUID input should be a string, bytes or UUID object"
  | .idText fault => "Input should be a valid UUID, " ++ fault.message

/-- A fault and the way to the value. -/
structure Issue where
  location : List Problem.Part
  fault : Fault
  deriving DecidableEq

def Issue.at (name : String) (fault : Fault) : Issue := ⟨[.name name], fault⟩

/-- The issue as a record of a request, where the payload is the body. -/
def Issue.record (i : Issue) : Problem.Record :=
  ⟨some i.fault.kind, .name "body" :: i.location, some i.fault.message⟩

end Stockroom.Payload
