import Stockroom.Address
import Stockroom.Http.Message
import Stockroom.Number.Integer

/-!
# The address of a request

The host that a client names counts if it is well formed, and the name of the server does if it is
not. A message shows the path of the address, a location the whole of it.
-/

namespace Stockroom.Http

open Text

/-! ## Hosts -/

/-- The characters of a host besides letters and digits. -/
def hostMarks : List Char := "-._~!$&'()*+,;=".toList

def isHostChar (c : Char) : Bool := c.isAlphanum || hostMarks.contains c

/-- The number behind a host, at most 65535. -/
def isHostNumber (s : List Char) : Bool :=
  !s.isEmpty && s.all Char.isDigit &&
    decide (Number.ofDigits 10 (s.filterMap asciiDigitValue) ≤ 65535)

/-- A name, which may hold percent signs. -/
def isPlainHost (s : List Char) : Bool :=
  let (name, number) := splitFirst (· == ':') s
  !name.isEmpty && name.all (fun c => isHostChar c || c == '%') && number.all isHostNumber

/-- An address that may stand in brackets, behind the opening one. It has no zone. -/
def isBracketedHost (s : List Char) : Bool :=
  let (inner, behind) := splitFirst (· == ']') s
  let numberFits := match behind with
    | some [] => true
    | some (':' :: number) => isHostNumber number
    | _ => false
  let fault := Address.hostFault? (inner.map Char.toNat)
  inner.all (fun c => isHostChar c || c == ':') && fault.isNone && numberFits

/-- Whether a text names a host, with or without a number behind it. -/
def isHost : List Char → Bool
  | '[' :: rest => isBracketedHost rest
  | s => isPlainHost s

/-! ## Addresses -/

inductive AddressFault where
  | unknownScheme
  | malformed (fault : Address.Fault)
  deriving DecidableEq

/-- Either fault is raised as an error of one kind. -/
def AddressFault.kind : AddressFault → String := fun _ => "ValueError"

/-- The number that goes without saying in a scheme. -/
def standardNumber? (scheme : String) : Option Int :=
  [("http", 80), ("https", 443), ("ws", 80), ("wss", 443)].lookup scheme

/-- The server, with its number unless that is the one of the scheme. -/
def Socket.authority (s : Socket) (standard : Int) : String :=
  if s.number = standard then s.name else s.name ++ ":" ++ toString s.number

/-- The host that the client names, or else the one of the server. -/
def Request.authority (r : Request) : Except AddressFault String :=
  match (r.header? "host").filter (isHost ·.toList) with
  | some host => .ok host
  | none =>
    match standardNumber? r.scheme with
    | some standard => .ok (r.server.authority standard)
    | none => .error .unknownScheme

/-- The path with the characters escaped that would end it or pass for a slash. -/
def Target.closedPath (t : Target) : List Char :=
  t.path.toList.flatMap fun c =>
    if c == '?' then "%3F".toList
    else if c == '#' then "%23".toList
    else if c == '\\' then "%5C".toList
    else [c]

/-- A scheme in front of an address. An empty one is left out with its colon. -/
def schemePart (scheme : String) : String := if scheme = "" then "" else scheme ++ ":"

/-- The address of a target on the host of a request. -/
def Request.address (r : Request) (t : Target) : Except AddressFault String :=
  r.authority.map fun authority =>
    schemePart r.scheme ++ "/" ++ "/" ++ authority ++ String.ofList t.closedPath ++
      (if t.query = "" then "" else "?" ++ t.query)

def Request.location (r : Request) (t : Target) : Except AddressFault String :=
  (r.address t).map Percent.encode

/-- The path of the address of a request, as messages show it. -/
def Request.shownPath (r : Request) : Except AddressFault Points :=
  match r.address r.target with
  | .error fault => .error fault
  | .ok text =>
    match Address.ofPoints text with
    | .ok address => .ok address.path
    | .error fault => .error (.malformed fault)

/-- How log lines name a request: by its method and its path. -/
def Request.subject (r : Request) : Except AddressFault Points :=
  r.shownPath.map fun path => r.method ++ " " ++ path

end Stockroom.Http
