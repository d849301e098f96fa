/-!
# Blanks

Two sets of white space. `isBlank` holds the characters with the property White_Space, which
surround a number. `isSpace` adds the four information separators, and surrounds a word.
-/

namespace Stockroom.Text

/-- The characters with the Unicode property White_Space. -/
def isBlank (c : Char) : Bool :=
  let n := c.toNat
  (0x09 ≤ n && n ≤ 0x0D) || n == 0x20 || n == 0x85 || n == 0xA0 || n == 0x1680 ||
    (0x2000 ≤ n && n ≤ 0x200A) || n == 0x2028 || n == 0x2029 || n == 0x202F || n == 0x205F ||
    n == 0x3000

/-- A blank, or one of the separators U+001C to U+001F. -/
def isSpace (c : Char) : Bool :=
  isBlank c || (0x1C ≤ c.toNat && c.toNat ≤ 0x1F)

/-- The controls that a line ends or is set out with. -/
def isLineControl (c : Char) : Bool := c == '\t' || c == '\n' || c == '\r'

/-- The text without the characters of a class at its two ends. -/
def trim {α : Type} (outer : α → Bool) (s : List α) : List α :=
  ((s.dropWhile outer).reverse.dropWhile outer).reverse

theorem trim_of_forall {α : Type} {outer : α → Bool} {s : List α} (h : ∀ c ∈ s, outer c = false) :
    trim outer s = s := by
  have hdrop : ∀ t : List α, (∀ c ∈ t, outer c = false) → t.dropWhile outer = t := by
    intro t ht
    cases t with
    | nil => rfl
    | cons c rest => rw [List.dropWhile_cons_of_neg (by simp [ht c])]
  rw [trim, hdrop s h, hdrop s.reverse (fun c hc => h c (List.mem_reverse.1 hc)),
    List.reverse_reverse]

theorem trim_padded {α : Type} {outer : α → Bool} {before s behind : List α}
    (hbefore : ∀ c ∈ before, outer c = true) (hbehind : ∀ c ∈ behind, outer c = true) :
    trim outer (before ++ s ++ behind) = trim outer s := by
  have hnil : behind.dropWhile outer = [] := by
    have h : (behind ++ []).dropWhile outer = [].dropWhile outer :=
      List.dropWhile_append_of_pos hbehind
    rwa [List.append_nil] at h
  unfold trim
  rw [List.append_assoc, List.dropWhile_append_of_pos hbefore, List.dropWhile_append, hnil]
  split
  · next hempty => rw [List.isEmpty_iff.1 hempty]
  · rw [List.reverse_append, List.dropWhile_append_of_pos]
    intro c hc
    exact hbehind c (List.mem_reverse.1 hc)

end Stockroom.Text
