import Stockroom.Number.Digits
import Stockroom.Number.Layout

/-!
# Times

A timestamp is a wall-clock time to the microsecond. A moment adds the offset from UTC, if it is
known. The written form has `T` between date and time, six digits of a second if they are not all
zero, and then the offset.
-/

namespace Stockroom

/-- A wall-clock time. Nothing keeps it from being one that no calendar has. -/
structure Timestamp where
  year : Nat
  month : Nat
  day : Nat
  hour : Nat
  minute : Nat
  second : Nat
  micro : Nat
  deriving DecidableEq

namespace Timestamp

open Number

/-- A number that orders times. -/
def key (t : Timestamp) : Nat :=
  (((((t.year * 13 + t.month) * 32 + t.day) * 24 + t.hour) * 60 + t.minute) * 60 + t.second) *
    1000000 + t.micro

def le (a b : Timestamp) : Bool := decide (a.key ≤ b.key)

theorem le_trans {a b c : Timestamp} (hab : a.le b = true) (hbc : b.le c = true) :
    a.le c = true := by
  simp only [le, decide_eq_true_eq] at *
  omega

theorem le_total (a b : Timestamp) : (a.le b || b.le a) = true := by
  simp only [le, Bool.or_eq_true, decide_eq_true_eq]
  omega

/-- The written form, which leaves out the part of a second if it is zero. -/
def chars (t : Timestamp) : List Char :=
  padded 4 t.year ++ '-' :: padded 2 t.month ++ '-' :: padded 2 t.day ++ 'T' ::
    padded 2 t.hour ++ ':' :: padded 2 t.minute ++ ':' :: padded 2 t.second ++
    (if t.micro = 0 then [] else '.' :: padded 6 t.micro)

def text (t : Timestamp) : String := String.ofList t.chars

/-! ## Days -/

/-- Days since the first of March of year 0, with years that begin in March. -/
def dayNumber (year month day : Nat) : Nat :=
  let y := if month ≤ 2 then year - 1 else year
  let m := if month ≤ 2 then month + 9 else month - 3
  365 * y + y / 4 - y / 100 + y / 400 + (153 * m + 2) / 5 + day - 1

/-- The year, month and day with a day number. -/
def ofDayNumber (n : Nat) : Nat × Nat × Nat :=
  let era := n / 146097
  let dayOfEra := n % 146097
  let yearOfEra := (dayOfEra - dayOfEra / 1460 + dayOfEra / 36524 - dayOfEra / 146096) / 365
  let dayOfYear := dayOfEra - (365 * yearOfEra + yearOfEra / 4 - yearOfEra / 100)
  let m := (5 * dayOfYear + 2) / 153
  let day := dayOfYear - (153 * m + 2) / 5 + 1
  let month := if m < 10 then m + 3 else m - 9
  let year := yearOfEra + era * 400
  (if month ≤ 2 then year + 1 else year, month, day)

def microsPerDay : Nat := 86400 * 1000000

/-- Microseconds since the first of March of year 0. -/
def micros (t : Timestamp) : Nat :=
  dayNumber t.year t.month t.day * microsPerDay +
    ((t.hour * 60 + t.minute) * 60 + t.second) * 1000000 + t.micro

def ofMicros (n : Nat) : Timestamp :=
  let (year, month, day) := ofDayNumber (n / microsPerDay)
  let rest := n % microsPerDay
  let seconds := rest / 1000000
  ⟨year, month, day, seconds / 3600, seconds / 60 % 60, seconds % 60, rest % 1000000⟩

def plus (t : Timestamp) (delta : Int) : Timestamp := ofMicros ((t.micros : Int) + delta).toNat

/-! ## Reading -/

def number? (s : List Char) : Option Nat :=
  if s.isEmpty then none else (s.mapM Text.asciiDigitValue).map (ofDigits 10)

/-- A number of so many digits, and what follows it. -/
def field? (width : Nat) (s : List Char) : Option (Nat × List Char) :=
  if s.length < width then none else (number? (s.take width)).map (·, s.drop width)

def expect? (c : Char) : List Char → Option (List Char)
  | x :: rest => if x = c then some rest else none
  | [] => none

def micro? (s : List Char) : Option (Nat × List Char) :=
  match s with
  | '.' :: rest => field? 6 rest
  | s => some (0, s)

/-- A time at the front of a text, and what follows it. -/
def read? (s : List Char) : Option (Timestamp × List Char) := do
  let (year, s) ← field? 4 s
  let (month, s) ← expect? '-' s >>= field? 2
  let (day, s) ← expect? '-' s >>= field? 2
  let (hour, s) ← expect? 'T' s >>= field? 2
  let (minute, s) ← expect? ':' s >>= field? 2
  let (second, s) ← expect? ':' s >>= field? 2
  let (micro, s) ← micro? s
  some (⟨year, month, day, hour, minute, second, micro⟩, s)

end Timestamp

/-- A wall-clock time with its offset from UTC in seconds. -/
structure Moment where
  wall : Timestamp
  offset : Option Int
  deriving DecidableEq

namespace Moment

open Number

/-- The offset in hours and whole minutes. Only an offset of zero is written `Z`. -/
def offsetChars : Option Int → List Char
  | none => []
  | some seconds =>
    if seconds = 0 then ['Z']
    else (if seconds < 0 then '-' else '+') :: padded 2 (seconds.natAbs / 3600) ++
      ':' :: padded 2 (seconds.natAbs / 60 % 60)

def text (m : Moment) : String := String.ofList (m.wall.chars ++ offsetChars m.offset)

/-- The seconds of an offset, which may be left out. -/
def second? : List Char → Option (Nat × List Char)
  | ':' :: rest => Timestamp.field? 2 rest
  | s => some (0, s)

/-- An offset to the nearest second, a half away from zero. One of less than a second is none. -/
def nearestSecond (seconds micro : Nat) : Nat :=
  if seconds = 0 then 0 else seconds + (micro + 500000) / 1000000

/-- The offset behind a time, which takes up the rest of the text. -/
def offset? (s : List Char) : Option (Option Int) :=
  match s with
  | [] => some none
  | ['Z'] => some (some 0)
  | c :: rest => do
    let (hours, s) ← Timestamp.field? 2 rest
    let (minutes, s) ← Timestamp.expect? ':' s >>= Timestamp.field? 2
    let (seconds, s) ← second? s
    let (micro, s) ← Timestamp.micro? s
    if s.isEmpty && (c == '+' || c == '-') then
      let whole := (hours * 60 + minutes) * 60 + seconds
      some (some (applySign (c == '-') (nearestSecond whole micro)))
    else none

def ofText? (s : String) : Option Moment := do
  let (wall, rest) ← Timestamp.read? s.toList
  let offset ← offset? rest
  some ⟨wall, offset⟩

end Moment

end Stockroom
