import Stockroom.Text.Digit
import Stockroom.Text.Points
import Stockroom.Text.Printable

/-!
# Quoted text

How a message shows a piece of text: between single quotes, or between double quotes if it holds a
single quote and no double one. The quote in use, the backslash and every hidden code point are
escaped.
-/

namespace Stockroom.Text

def singleQuote : Nat := 39

def doubleQuote : Nat := 34

def backslash : Nat := 92

/-- A hidden code point, with as few of two, four or eight digits as it needs. -/
def escapeHidden (n : Nat) : List Char :=
  if n < 0x100 then '\\' :: 'x' :: hexDigits 2 n
  else if n < 0x10000 then '\\' :: 'u' :: hexDigits 4 n
  else '\\' :: 'U' :: hexDigits 8 n

/-- A code point between two marks. -/
def quotePoint (quote n : Nat) : List Char :=
  if n = quote ∨ n = backslash then ['\\', Char.ofNat n]
  else if n = 9 then ['\\', 't']
  else if n = 10 then ['\\', 'n']
  else if n = 13 then ['\\', 'r']
  else if isPrintable n then [Char.ofNat n]
  else escapeHidden n

/-- The quote that a text is put between. -/
def quoteMark (p : Points) : Nat :=
  if p.contains singleQuote && !p.contains doubleQuote then doubleQuote else singleQuote

/-- A text as a message shows it. -/
def quoted (p : Points) : String :=
  let mark := quoteMark p
  String.ofList (Char.ofNat mark :: p.flatMap (quotePoint mark) ++ [Char.ofNat mark])

end Stockroom.Text
