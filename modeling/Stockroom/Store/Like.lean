import Stockroom.Text.SurrogateRun
import Stockroom.Text.Utf8

/-!
# Name patterns

In a pattern a percent sign stands for any run of characters, an underscore for any one character,
and a slash makes the next character stand for itself. Letters of ASCII match in both cases. A
pattern and a text both end at the first character U+0000, and U+FFFE and U+FFFF are read as U+FFFD
in both.
-/

namespace Stockroom.Like

open Text

def percent : Nat := '%'.toNat

def underscore : Nat := '_'.toNat

def slash : Nat := '/'.toNat

/-- The part of a text that matching looks at. -/
def visible (p : Points) : Points := p.takeWhile (· != 0)

/-- Lower case for a letter of ASCII, and U+FFFD for the two characters behind it. -/
def foldPoint (n : Nat) : Nat :=
  if n = 0xFFFE ∨ n = 0xFFFF then replacement
  else if 0x41 ≤ n ∧ n ≤ 0x5A then n + 0x20
  else n

def fold (p : Points) : Points := p.map foldPoint

inductive Token where
  | anyRun
  | anyOne
  | exactly (n : Nat)
  deriving DecidableEq

/-- What a character of a pattern stands for if no slash is in front of it. -/
def token (n : Nat) : Token :=
  if n = percent then .anyRun else if n = underscore then .anyOne else .exactly n

/-- The elements of a pattern. A slash at the end matches nothing. -/
def tokens? : Points → Option (List Token)
  | [] => some []
  | [n] => if n = slash then none else some [token n]
  | n :: m :: rest =>
    if n = slash then (tokens? rest).map (.exactly m :: ·)
    else (tokens? (m :: rest)).map (token n :: ·)

/-- Whether some end of a text, the text itself included, passes a test. -/
def anySuffix (test : Points → Bool) : Points → Bool
  | [] => test []
  | n :: rest => test (n :: rest) || anySuffix test rest

def matchTokens : List Token → Points → Bool
  | [], p => p.isEmpty
  | .anyRun :: ts, p => anySuffix (matchTokens ts) p
  | .anyOne :: ts, p =>
    match p with
    | [] => false
    | _ :: rest => matchTokens ts rest
  | .exactly n :: ts, p =>
    match p with
    | [] => false
    | m :: rest => m == n && matchTokens ts rest

def matchPoints (pattern p : Points) : Bool :=
  match tokens? (visible (fold pattern)) with
  | none => false
  | some ts => matchTokens ts (visible (fold p))

/-- A character of a term, with a slash before it if it has a meaning in a pattern. -/
def escapePoint (n : Nat) : Points :=
  if n = percent ∨ n = underscore ∨ n = slash then [slash, n] else [n]

/-- A term that is matched literally. -/
def escape (term : Points) : Points := term.flatMap escapePoint

theorem isClean_escape {term : Points} (h : IsClean term) : IsClean (escape term) := by
  refine h.flatMap fun n hn => ?_
  unfold escapePoint
  split
  · exact isClean_cons (by decide) (isClean_cons hn isClean_nil)
  · exact isClean_cons hn isClean_nil

/-- The pattern of the texts that contain a term. -/
def containing (term : Points) : Points := percent :: escape term ++ [percent]

/-- The longest pattern in bytes that the store takes. -/
def patternLimit : Nat := 50000

def patternBytes (term : Points) : Nat := (encode (containing term)).length

theorem length_le_flatMap {α β : Type} {f : α → List β} (hf : ∀ a, f a ≠ []) (l : List α) :
    l.length ≤ (l.flatMap f).length := by
  induction l with
  | nil => exact Nat.le_refl 0
  | cons a l ih =>
    have := List.length_pos_iff.2 (hf a)
    rw [List.flatMap_cons, List.length_append, List.length_cons]
    omega

/-- A pattern has a byte at least for each character of its term, and two more. -/
theorem length_lt_patternBytes (term : Points) : term.length + 1 < patternBytes term := by
  have hescape : term.length ≤ (escape term).length := by
    refine length_le_flatMap (fun n => ?_) term
    unfold escapePoint
    split <;> exact List.cons_ne_nil _ _
  have hencode : (containing term).length ≤ patternBytes term := by
    refine length_le_flatMap (fun n => ?_) (containing term)
    unfold encodePoint
    split
    · exact List.cons_ne_nil _ _
    split
    · exact List.cons_ne_nil _ _
    split <;> exact List.cons_ne_nil _ _
  rw [containing, List.length_append, List.length_cons, List.length_singleton] at hencode
  omega

/-- Whether a name contains a term, in the eyes of the database. -/
def nameMatches (term name : Points) : Bool := matchPoints (containing term) name

end Stockroom.Like
