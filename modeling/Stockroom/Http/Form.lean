import Stockroom.Http.Percent
import Stockroom.Listing

/-!
# Query strings

Parameters stand between ampersands, and the first equals sign of one ends its name. A plus sign is
a space. Every byte of the query string is read as one character before percent signs are decoded.
-/

namespace Stockroom.Http.Form

open Text

def plusToSpace (s : List Char) : List Char := s.map fun c => if c == '+' then ' ' else c

/-- A name or a text as it was before it was put into the query string. -/
def decodePart (s : List Char) : String := String.ofList (Percent.decode (plusToSpace s))

/-- A name and its text. A parameter without equals sign has the empty text. -/
def parameter (s : List Char) : Points × Points :=
  let (name, value) := splitFirst (· == '=') s
  (decodePart name, decodePart (value.getD []))

/-- The parameters of a query string in their order. Empty ones between two ampersands are skipped.
-/
def params (query : String) : Params :=
  (((Percent.byteText query).toList.splitOn '&').filter (!·.isEmpty)).map parameter

end Stockroom.Http.Form
