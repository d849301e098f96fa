import Stockroom.Json
import Stockroom.Number.DecimalText
import Stockroom.Number.Integer

/-!
# Reading JSON

The grammar of JSON, and the three words `NaN`, `Infinity` and `-Infinity`. A reader may have a
limit to the digits of an integer, and arrays and objects stand in one another at most `depth` deep.
The first fault from the left is the one that is reported, and a limit is a fault of another kind
than text that is no JSON.
-/

namespace Stockroom.Json

open Number Text

inductive ReadFault where
  | malformed
  | beyondLimits
  deriving DecidableEq

/-- What is left of a text behind what was read from it. -/
abbrev Reads (α : Type) := Except ReadFault (α × Points)

def isWhite (n : Nat) : Bool := n == 32 || n == 9 || n == 10 || n == 13

def skipWhite (s : Points) : Points := s.dropWhile isWhite

/-- What follows a word, if the text begins with it. -/
def dropWord? (word : String) (s : Points) : Option Points :=
  if (points word).isPrefixOf s then some (s.drop word.length) else none

def isDigit (n : Nat) : Bool := 48 ≤ n && n ≤ 57

def digitOf (n : Nat) : Nat := n - 48

/-! ## Strings -/

/-- One element of a string: a point as it stands, or a UTF-16 unit that an escape names. -/
inductive Piece where
  | plain (point : Nat)
  | escaped (unit : Nat)
  deriving DecidableEq

def hexDigitOf? (n : Nat) : Option Nat :=
  if isDigit n then some (n - 48)
  else if 97 ≤ n ∧ n ≤ 102 then some (n - 87)
  else if 65 ≤ n ∧ n ≤ 70 then some (n - 55)
  else none

def unit? (a b c d : Nat) : Option Nat := do
  let ds ← [a, b, c, d].mapM hexDigitOf?
  some (ofDigits 16 ds)

/-- The point that a backslash and one more character stand for. -/
def simpleEscape? : Nat → Option Nat
  | 34 => some 34
  | 92 => some 92
  | 47 => some 47
  | 98 => some 8
  | 102 => some 12
  | 110 => some 10
  | 114 => some 13
  | 116 => some 9
  | _ => none

/-- The elements of a string up to its closing quote. A control character stands in none. -/
def readPieces : Points → Reads (List Piece)
  | [] => .error .malformed
  | 34 :: rest => .ok ([], rest)
  | 92 :: 117 :: a :: b :: c :: d :: rest =>
    match unit? a b c d with
    | none => .error .malformed
    | some u => (readPieces rest).map fun r => (.escaped u :: r.1, r.2)
  | 92 :: c :: rest =>
    match simpleEscape? c with
    | none => .error .malformed
    | some n => (readPieces rest).map fun r => (.plain n :: r.1, r.2)
  | c :: rest =>
    if c < 32 then .error .malformed
    else (readPieces rest).map fun r => (.plain c :: r.1, r.2)

/-- An escaped high surrogate and an escaped low one right behind it are one point. -/
def joinPieces : List Piece → Points
  | [] => []
  | .plain n :: rest => n :: joinPieces rest
  | .escaped high :: .escaped low :: rest =>
    if isHighSurrogate high && isLowSurrogate low then
      joinSurrogates high low :: joinPieces rest
    else high :: joinPieces (.escaped low :: rest)
  | .escaped n :: rest => n :: joinPieces rest

/-- A string whose opening quote has been read. -/
def readString (s : Points) : Reads Points := (readPieces s).map fun r => (joinPieces r.1, r.2)

/-! ## Numbers -/

/-- The digits behind a point, if a digit follows it. -/
def splitFraction : Points → Option (Points × Points)
  | 46 :: d :: rest =>
    if isDigit d then some ((d :: rest).takeWhile isDigit, (d :: rest).dropWhile isDigit) else none
  | _ => none

def exponentSign : Points → Bool × Points
  | 45 :: rest => (true, rest)
  | 43 :: rest => (false, rest)
  | s => (false, s)

/-- The exponent behind `e` or `E`, if digits follow. -/
def splitExponent : Points → Option (Int × Points)
  | c :: rest =>
    if c = 101 ∨ c = 69 then
      let (negative, s) := exponentSign rest
      match s.takeWhile isDigit with
      | [] => none
      | ds => some (applySign negative (ofDigits 10 (ds.map digitOf)), s.dropWhile isDigit)
    else none
  | [] => none

/-- The digits of the whole part: a zero alone, or digits that begin with another one. -/
def splitWhole : Points → Option (Points × Points)
  | 48 :: rest => some ([48], rest)
  | c :: rest =>
    if isDigit c then some ((c :: rest).takeWhile isDigit, (c :: rest).dropWhile isDigit) else none
  | [] => none

/-- A number without its sign. It is real if it has a fraction or an exponent. -/
def readNumber (limit : Option Nat) (negative : Bool) (s : Points) : Reads Json :=
  match splitWhole s with
  | none => .error .malformed
  | some (whole, s) =>
    let (fraction, s, pointed) := match splitFraction s with
      | some (ds, s) => (ds, s, true)
      | none => ([], s, false)
    let (exponent, s, powered) := match splitExponent s with
      | some (n, s) => (n, s, true)
      | none => (0, s, false)
    if pointed || powered then
      let ds := (whole ++ fraction).map digitOf
      .ok (.real (.ofDecimal negative ds (exponent - fraction.length)), s)
    else if limit.any (· < whole.length) then .error .beyondLimits
    else .ok (.integer (applySign negative (ofDigits 10 (whole.map digitOf))), s)

/-! ## Values -/

/-- The words that are values. Each begins with a letter of its own, or with a minus sign. -/
def literals : List (String × Json) :=
  [("null", .null), ("true", .bool true), ("false", .bool false), ("NaN", .real .nan),
    ("Infinity", .real (.infinity false)), ("-Infinity", .real (.infinity true))]

def readLiteral? (s : Points) : Option (Json × Points) :=
  literals.findSome? fun l => (dropWord? l.1 s).map (l.2, ·)

def readScalar (limit : Option Nat) (s : Points) : Reads Json :=
  match readLiteral? s with
  | some r => .ok r
  | none =>
    match s with
    | 34 :: rest => (readString rest).map fun r => (.string r.1, r.2)
    | 45 :: rest => readNumber limit true rest
    | s => readNumber limit false s

/-- A key with the colon behind it. -/
def readKey : Points → Reads Points
  | 34 :: rest =>
    match readString rest with
    | .error e => .error e
    | .ok (key, rest) =>
      match skipWhite rest with
      | 58 :: rest => .ok (key, rest)
      | _ => .error .malformed
  | _ => .error .malformed

section

variable (limit : Option Nat)

mutual

/-- A value with the blanks in front of it, in which `depth` levels may be opened. -/
def readValue : (fuel depth : Nat) → Points → Reads Json
  | 0, _, _ => .error .malformed
  | fuel + 1, depth, s =>
    match skipWhite s with
    | 91 :: rest =>
      match depth with
      | 0 => .error .beyondLimits
      | depth + 1 =>
        match skipWhite rest with
        | 93 :: rest => .ok (.array [], rest)
        | rest => (readItems fuel depth rest).map fun r => (.array r.1, r.2)
    | 123 :: rest =>
      match depth with
      | 0 => .error .beyondLimits
      | depth + 1 =>
        match skipWhite rest with
        | 125 :: rest => .ok (.object [], rest)
        | rest =>
          (readMembers fuel depth rest).map fun r =>
            (.object (r.1.foldl (fun ms m => put m.1 m.2 ms) []), r.2)
    | s => readScalar limit s

/-- The items of an array that is not empty, up to its end. -/
def readItems : (fuel depth : Nat) → Points → Reads (List Json)
  | 0, _, _ => .error .malformed
  | fuel + 1, depth, s =>
    match readValue fuel depth s with
    | .error e => .error e
    | .ok (item, rest) =>
      match skipWhite rest with
      | 93 :: rest => .ok ([item], rest)
      | 44 :: rest => (readItems fuel depth rest).map fun r => (item :: r.1, r.2)
      | _ => .error .malformed

/-- The members of an object that is not empty, up to its end. -/
def readMembers : (fuel depth : Nat) → Points → Reads (List (Points × Json))
  | 0, _, _ => .error .malformed
  | fuel + 1, depth, s =>
    match readKey (skipWhite s) with
    | .error e => .error e
    | .ok (key, rest) =>
      match readValue fuel depth rest with
      | .error e => .error e
      | .ok (value, rest) =>
        match skipWhite rest with
        | 125 :: rest => .ok ([(key, value)], rest)
        | 44 :: rest => (readMembers fuel depth rest).map fun r => ((key, value) :: r.1, r.2)
        | _ => .error .malformed

end

/-- A whole text as one value. Every step of the reader uses up a point or ends. -/
def readWithin (depth : Nat) (s : Points) : Except ReadFault Json :=
  match readValue limit (2 * s.length + 1) depth s with
  | .error e => .error e
  | .ok (value, rest) => if (skipWhite rest).isEmpty then .ok value else .error .malformed

end

/-- A whole text whose integers have at most `digitLimit` digits. -/
def read (depth : Nat) (s : Points) : Except ReadFault Json := readWithin (some digitLimit) depth s

end Stockroom.Json
