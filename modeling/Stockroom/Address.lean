import Stockroom.Address.Host
import Stockroom.Text.Blank
import Stockroom.Text.Replace
import Stockroom.Text.Split

/-!
# Addresses

An address has a scheme, an authority and a path. The authority holds the user info in front of its
last at sign, and the password stands in the user info behind the first colon. `mask` writes four
stars for the password wherever it stands between a colon and an at sign.
-/

namespace Stockroom

open Text

structure Address where
  scheme : Points
  authority : Points
  path : Points
  deriving DecidableEq

namespace Address

/-- Why a text cannot be split into the parts of an address. -/
inductive Fault where
  | brackets
  | host (fault : HostFault)
  | normalization (authority : Points)
  deriving DecidableEq

/-- The text of the error, in the words of the library that splits addresses. -/
def Fault.message : Fault → Points
  | .brackets => "Invalid IPv6 URL"
  | .host fault => fault.message
  | .normalization authority =>
    "netloc '" ++ authority ++ "' contains invalid characters under NFKC normalization"

/-! ## Parts -/

def userInfo? (a : Address) : Option Points := (splitLast (isPoint '@') a.authority).1

/-- The host, with the number that may follow it. -/
def place (a : Address) : Points := (splitLast (isPoint '@') a.authority).2

def user? (a : Address) : Option Points := a.userInfo?.map fun p => (splitFirst (isPoint ':') p).1

/-- What stands behind the first colon of the user info, which may be empty. -/
def password? (a : Address) : Option Points :=
  a.userInfo?.bind fun p => (splitFirst (isPoint ':') p).2

/-! ## Splitting -/

/-- A control character of ASCII, or the space. -/
def isControl (n : Nat) : Bool := n ≤ 32

/-- A text without what may not stand in front of an address or in one. -/
def cleaned (p : Points) : Points := (p.dropWhile isControl).filter (!isPointOf isLineControl ·)

/-- A character of a scheme behind the first one. -/
def isSchemeChar (c : Char) : Bool := c.isAlphanum || c == '+' || c == '-' || c == '.'

def lowerPoint (n : Nat) : Nat := (Char.ofNat n).toLower.toNat

/-- A scheme begins with a letter and ends at the first colon. -/
def splitScheme (p : Points) : Points × Points :=
  match splitFirst (isPoint ':') p with
  | (name, some rest) =>
    if name.head?.any (isPointOf Char.isAlpha) && name.all (isPointOf isSchemeChar) then
      (name.map lowerPoint, rest)
    else ([], p)
  | (_, none) => ([], p)

def slash : Nat := '/'.toNat

def endsPath (n : Nat) : Bool := isPoint '?' n || isPoint '#' n

def endsAuthority (n : Nat) : Bool := n == slash || endsPath n

/-- The authority, which two slashes announce, and what follows it. -/
def splitAuthority (p : Points) : Points × Points :=
  if [slash, slash].isPrefixOf p then
    ((p.drop 2).takeWhile (!endsAuthority ·), (p.drop 2).dropWhile (!endsAuthority ·))
  else ([], p)

def parts (p : Points) : Address :=
  let (scheme, rest) := splitScheme (cleaned p)
  let (authority, rest) := splitAuthority rest
  ⟨scheme, authority, rest.takeWhile (!endsPath ·)⟩

/-! ## Checks -/

/-- The host that has to be an address of its own if brackets stand in the authority. -/
def bracketedHost (place : Points) : Except Fault Points :=
  match splitFirst (isPoint '[') place with
  | (_, none) => .ok (splitFirst (isPoint ':') place).1
  | (front, some inner) =>
    let (host, behind) := splitFirst (isPoint ']') inner
    let number := behind.getD []
    if front.isEmpty && (number.isEmpty || number.head?.any (isPoint ':')) then .ok host
    else .error .brackets

/-- What is wrong with the brackets of an authority. They come in pairs or not at all. -/
def bracketFault? (a : Address) : Option Fault :=
  match a.authority.any (isPoint '['), a.authority.any (isPoint ']') with
  | false, false => none
  | true, true =>
    match bracketedHost a.place with
    | .error fault => some fault
    | .ok host => (hostFault? host).map Fault.host
  | _, _ => some .brackets

/-- The characters whose compatibility form holds one that delimits the parts of an address. -/
def disguised : List Nat :=
  [0x2047, 0x2048, 0x2049, 0x2100, 0x2101, 0x2105, 0x2106, 0x2A74, 0xFE13, 0xFE16, 0xFE55, 0xFE56,
   0xFE5F, 0xFE6B, 0xFF03, 0xFF0F, 0xFF1A, 0xFF1F, 0xFF20]

/-- The first fault of an address: its brackets are looked at before its characters. -/
def fault? (a : Address) : Option Fault :=
  match bracketFault? a with
  | some fault => some fault
  | none =>
    if a.authority.any disguised.contains then some (.normalization a.authority) else none

def ofPoints (p : Points) : Except Fault Address :=
  match (parts p).fault? with
  | some fault => .error fault
  | none => .ok (parts p)

/-! ## Masking -/

/-- What stands for a password. Its length does not give the password away. -/
def stars : Points := "****"

/-- A password where it stands in an address. -/
def enclosed (password : Points) : Points := ':'.toNat :: password ++ ['@'.toNat]

/-- The address with stars for its password. One with no password, or an empty one, stays as it is.
-/
def mask (p : Points) : Except Fault Points :=
  (ofPoints p).map fun a =>
    match a.password? with
    | none => p
    | some [] => p
    | some password => replaceAll (enclosed password) (enclosed stars) p

end Address

end Stockroom
