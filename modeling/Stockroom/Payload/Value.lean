import Stockroom.Json
import Stockroom.Number.Amount
import Stockroom.Number.DecimalText
import Stockroom.Payload.Fault

/-!
# Values of a payload

A payload may spell a number as a text, an integer as a real and either as a truth value. The
readers here say which values pass for a text, a real, an integer or an identifier. The digits of a
spelled number are those of ASCII, and blanks may stand around it.
-/

namespace Stockroom.Payload

open Number Text

/-- A string without lone surrogates. -/
def readString (p : Points) : Except Fault String :=
  match ofPoints? p with
  | some s => .ok s
  | none => .error .notUnicode

def readText : Json → Except Fault String
  | .string p => readString p
  | _ => .error .notText

def hasDoubleUnderscore : List Char → Bool
  | '_' :: '_' :: _ => true
  | _ :: rest => hasDoubleUnderscore rest
  | [] => false

/-- Takes out underscores that stand alone, if there are some and none is at an end. -/
def withoutUnderscores? (s : List Char) : Option (List Char) :=
  if !s.contains '_' || s.head? == some '_' || s.getLast? == some '_' || hasDoubleUnderscore s then
    none
  else some (s.filter (· != '_'))

/-! ## Reals -/

def asciiDigits (s : List Char) : Option (List Nat) :=
  if s.isEmpty then none else s.mapM asciiDigitValue

/-- The real that a text spells. Underscores and blanks do not go together. -/
def realOfChars? (s : List Char) : Option Real64 :=
  match realOfWord? asciiDigits (trim isBlank s) with
  | some x => some x
  | none => (withoutUnderscores? s).bind (realOfWord? asciiDigits)

/-- An integer beyond the reals is none. -/
def readReal : Json → Except Fault Real64
  | .real x => .ok x
  | .integer n =>
    match (Amount.whole n).real? with
    | some x => .ok x
    | none => .error .notReal
  | .bool b => .ok (.ofInt (if b then 1 else 0))
  | .string p =>
    match readString p with
    | .error fault => .error fault
    | .ok s =>
      match realOfChars? s.toList with
      | some x => .ok x
      | none => .error .notRealText
  | _ => .error .notReal

/-! ## Integers -/

def isNonzeroDigit (c : Char) : Bool := '1' ≤ c && c ≤ '9'

/-- An integer as JSON writes it. One that begins as such and has too many digits is too large,
whatever follows it. -/
def plainInteger (s : List Char) : Except Fault Int :=
  let negative := s.head? == some '-'
  let body := if negative then s.drop 1 else s
  let digits := body.takeWhile Char.isDigit
  let rest := body.dropWhile Char.isDigit
  if digits = ['0'] ∧ rest = [] then .ok 0
  else if digits.head?.any isNonzeroDigit then
    if digitLimit < digits.length then .error .integerTooLarge
    else if rest = [] then
      .ok (applySign negative (ofDigits 10 (digits.filterMap asciiDigitValue)))
    else .error .notIntegerText
  else .error .notIntegerText

/-- Takes a plus sign off the front, unless a minus sign follows it. -/
def withoutPlus? : List Char → Option (List Char)
  | '+' :: '-' :: _ => none
  | '+' :: rest => some rest
  | s => some s

/-- Takes zeros, and underscores among them, off the front: up to another digit or a minus sign, or
up to the last character before a point or the end. -/
def withoutZeros? (s : List Char) : Option (List Char) :=
  match s with
  | [] => none
  | '0' :: _ =>
    let front := s.takeWhile fun c => c == '0' || c == '_'
    let rest := s.dropWhile fun c => c == '0' || c == '_'
    match rest with
    | [] => some (front.drop (front.length - 1))
    | '.' :: _ => some (front.drop (front.length - 1) ++ rest)
    | c :: _ => if isNonzeroDigit c || c == '-' then some rest else none
  | c :: _ => if isNonzeroDigit c then some s else none

/-- Takes zeros off the front, or from behind a minus sign that stands there. -/
def withoutSignedZeros? : List Char → Option (List Char)
  | '-' :: rest => (withoutZeros? rest).map ('-' :: ·)
  | s => withoutZeros? s

/-- Takes a point with at least one zero, and only zeros, off the end. -/
def withoutPointZeros (s : List Char) : List Char :=
  match splitFirst (· == '.') s with
  | (whole, some fraction) =>
    if fraction.isEmpty || fraction.any (· != '0') then s else whole
  | (_, none) => s

/-- A text without blanks around it, plus sign, zeros in front, zeros behind a point, and
underscores. -/
def undecorated? (s : List Char) : Option (List Char) :=
  (withoutPlus? (trim isBlank s) >>= withoutSignedZeros?).map fun s =>
    let s := withoutPointZeros s
    (withoutUnderscores? s).getD s

/-- The integer that a text spells with decoration. No such text is reported as too large. -/
def decoratedInteger (s : List Char) : Except Fault Int :=
  match undecorated? s with
  | none => .error .notIntegerText
  | some s =>
    match plainInteger s with
    | .ok n => .ok n
    | .error _ => .error .notIntegerText

def integerOfChars (s : List Char) : Except Fault Int :=
  match plainInteger s with
  | .error .notIntegerText => decoratedInteger s
  | result => result

/-- A real passes for the integer that it equals, if that is at most `maxInt64` away from zero. -/
def integerOfReal (x : Real64) : Except Fault Int :=
  if !x.isFinite then .error .notFinite
  else
    match x.toInt? with
    | none => .error .fraction
    | some n => if (n.natAbs : Int) ≤ maxInt64 then .ok n else .error .integerTooLarge

/-- Of the values that pass for an integer only a real may be too large. -/
def readInteger : Json → Except Fault Int
  | .integer n => .ok n
  | .bool b => .ok (if b then 1 else 0)
  | .real x => integerOfReal x
  | .string p =>
    match readString p with
    | .error fault => .error fault
    | .ok s => integerOfChars s.toList
  | _ => .error .notInteger

/-! ## Identifiers -/

def readId : Json → Except Fault Uuid
  | .string p =>
    match readString p with
    | .error fault => .error fault
    | .ok s =>
      match Uuid.ofStrictText s with
      | .ok id => .ok id
      | .error fault => .error (.idText fault)
  | _ => .error .notId

end Stockroom.Payload
