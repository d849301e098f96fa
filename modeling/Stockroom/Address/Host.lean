import Stockroom.Text.Digit
import Stockroom.Text.Quoted

/-!
# Hosts in brackets

Brackets hold an IPv6 address, or one of a later version, which a `v` and its number announce.
-/

namespace Stockroom.Address

open Text

inductive HostFault where
  | future
  | version4
  | unknown (host : Points)
  deriving DecidableEq

def HostFault.message : HostFault → String
  | .future => "IPvFuture address is invalid"
  | .version4 => "An IPv4 address cannot be in brackets"
  | .unknown host => quoted host ++ " does not appear to be an IPv4 or IPv6 address"

/-- A number up to 255 without leading zeros. -/
def isOctet (s : List Char) : Bool :=
  1 ≤ s.length && s.length ≤ 3 && s.all Char.isDigit && (s.head? != some '0' || s.length == 1) &&
    decide (s.foldl (fun n c => 10 * n + (c.toNat - 48)) 0 ≤ 255)

/-- An IPv4 address: four octets with points between them. -/
def isVersion4 (s : List Char) : Bool :=
  let parts := s.splitOn '.'
  parts.length == 4 && parts.all isOctet

/-- One to four digits to base sixteen. -/
def isGroup (s : List Char) : Bool :=
  1 ≤ s.length && s.length ≤ 4 && s.all fun c => (asciiHexDigitValue c).isSome

/-- The parts between colons. An IPv4 address at the end stands for two groups. -/
def groups (s : List Char) : List (List Char) :=
  let parts := s.splitOn ':'
  match parts.getLast? with
  | some last => if isVersion4 last then parts.dropLast ++ [['0'], ['0']] else parts
  | none => parts

/-- The groups on one side of a double colon, where none stands as one empty part. -/
def side (parts : List (List Char)) : List (List Char) := if parts = [[]] then [] else parts

/-- Eight groups, or fewer if one double colon stands for the others. -/
def hasGroups (parts : List (List Char)) : Bool :=
  let inner := (parts.drop 1).dropLast
  if inner.count [] = 0 then parts.length == 8 && parts.all isGroup
  else if inner.count [] = 1 then
    let front := side (parts.take (inner.idxOf [] + 1))
    let back := side (parts.drop (inner.idxOf [] + 2))
    (front ++ back).all isGroup && decide (front.length + back.length < 8)
  else false

/-- An IPv6 address, with a zone behind a percent sign or without one. -/
def isVersion6 (s : List Char) : Bool :=
  let zone := s.dropWhile (· != '%')
  let zoneFits := zone.isEmpty || (2 ≤ zone.length && !(zone.drop 1).contains '%')
  zoneFits && hasGroups (groups (s.takeWhile (· != '%')))

/-- The letter `v`, a version to base sixteen, a point and something behind it. -/
def isFuture (s : List Char) : Bool :=
  let rest := s.drop 1
  let version := rest.takeWhile fun c => (asciiHexDigitValue c).isSome
  match rest.dropWhile fun c => (asciiHexDigitValue c).isSome with
  | '.' :: _ :: _ => !version.isEmpty
  | _ => false

/-- What is wrong with a host that has to stand in brackets. A surrogate counts as U+0000, which is
in none of the classes above. -/
def hostFault? (host : Points) : Option HostFault :=
  let s := host.map Char.ofNat
  if s.head? == some 'v' then if isFuture s then none else some .future
  else if isVersion4 s then some .version4
  else if isVersion6 s then none
  else some (.unknown host)

end Stockroom.Address
