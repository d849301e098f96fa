import Stockroom.Text.Digit

/-!
# Digit strings

A digit string is one or more digits, the first most significant, where one underscore may stand
between two of them. `grouped` reads one with the digits of any alphabet.
-/

namespace Stockroom.Number

open Text

/-- The values of a digit string, which has to be the whole text. -/
def grouped (value : Char → Option Nat) : List Char → Option (List Nat)
  | [] => none
  | [c] => (value c).map ([·])
  | c :: '_' :: rest => (value c).bind fun d => (grouped value rest).map (d :: ·)
  | c :: rest => (value c).bind fun d => (grouped value rest).map (d :: ·)

/-- The number that digits of a base stand for. -/
def ofDigits (base : Nat) (ds : List Nat) : Nat := ds.foldl (fun n d => base * n + d) 0

theorem ofDigits_append_singleton (base : Nat) (ds : List Nat) (d : Nat) :
    ofDigits base (ds ++ [d]) = base * ofDigits base ds + d := by
  simp [ofDigits, List.foldl_append]

theorem ofDigits_lt {base : Nat} (ds : List Nat) (h : ∀ d ∈ ds, d < base) :
    ofDigits base ds < Nat.pow base ds.length := by
  rw [← List.reverse_reverse ds] at h ⊢
  generalize ds.reverse = rs at h
  induction rs with
  | nil => simp [ofDigits]
  | cons d rs ih =>
    have hd : d < base := h d (by simp)
    have hrs := ih fun x hx => h x (by simp at hx ⊢; exact Or.inl hx)
    rw [List.reverse_cons, ofDigits_append_singleton, List.length_append, List.length_singleton]
    calc base * ofDigits base rs.reverse + d
        < base * ofDigits base rs.reverse + base := by omega
      _ = base * (ofDigits base rs.reverse + 1) := by rw [Nat.mul_add, Nat.mul_one]
      _ ≤ base * Nat.pow base rs.reverse.length := Nat.mul_le_mul_left _ hrs
      _ = Nat.pow base (rs.reverse.length + 1) := Nat.mul_comm _ _

theorem grouped_of_not_mem {value : Char → Option Nat} {s : List Char} (hne : s ≠ [])
    (h : '_' ∉ s) : grouped value s = s.mapM value := by
  fun_induction grouped value s with
  | case1 => exact absurd rfl hne
  | case2 c =>
    rw [List.mapM_cons, List.mapM_nil]
    cases value c <;> rfl
  | case3 c rest => simp at h
  | case4 c rest hone hmark ih =>
    have hrest : rest ≠ [] := by
      rintro rfl
      exact hone rfl
    rw [ih hrest (fun hm => h (List.mem_cons_of_mem _ hm)), List.mapM_cons]
    cases value c <;> cases rest.mapM value <;> rfl

theorem mapM_hexDigits {value : Char → Option Nat}
    (hvalue : ∀ d < 16, value (Nat.digitChar d) = some d) (width n : Nat) :
    ∃ ds, (hexDigits width n).mapM value = some ds ∧ ofDigits 16 ds = n % Nat.pow 16 width := by
  induction width generalizing n with
  | zero => exact ⟨[], rfl, (Nat.mod_one n).symm⟩
  | succ width ih =>
    obtain ⟨ds, hds, hofDigits⟩ := ih (n / 16)
    refine ⟨ds ++ [n % 16], ?_, ?_⟩
    · simp [hexDigits, hds, hvalue _ (Nat.mod_lt n (by decide : 0 < 16))]
    · have hpow : Nat.pow 16 (width + 1) = 16 * Nat.pow 16 width := Nat.pow_succ'
      rw [ofDigits_append_singleton, hofDigits, hpow, Nat.mod_mul]
      omega

/-! ## Digits in either case -/

/-- Digits to base sixteen are, but for the case, those of the number that they stand for. -/
theorem map_toLower_of_mapM {s : List Char} {ds : List Nat}
    (h : s.mapM asciiHexDigitValue = some ds) :
    s.map Char.toLower = hexDigits s.length (ofDigits 16 ds) := by
  -- From the right, as the digits of a number are written.
  rw [← List.reverse_reverse s] at h ⊢
  generalize s.reverse = t at h
  induction t generalizing ds with
  | nil => rfl
  | cons c t ih =>
    rw [List.reverse_cons, List.mapM_append, List.mapM_cons, List.mapM_nil] at h
    obtain ⟨front, hfront, h⟩ := Option.bind_eq_some_iff.1 h
    obtain ⟨last, hlast, h⟩ := Option.bind_eq_some_iff.1 h
    obtain ⟨d, hd, hlast⟩ := Option.bind_eq_some_iff.1 hlast
    cases hlast
    cases h
    have hlt := hexDigitValue_lt (asciiHexDigitValue_eq_some_iff.1 hd).2
    have hdiv : (16 * ofDigits 16 front + d) / 16 = ofDigits 16 front := by omega
    have hmod : (16 * ofDigits 16 front + d) % 16 = d := by omega
    rw [List.reverse_cons, List.map_append, ih hfront, List.length_append, List.length_singleton,
      hexDigits, ofDigits_append_singleton, hdiv, hmod, List.map_singleton,
      toLower_of_asciiHexDigitValue hd]

theorem mapM_of_map_toLower {s : List Char} {width n : Nat}
    (h : s.map Char.toLower = hexDigits width n) :
    ∃ ds, s.mapM asciiHexDigitValue = some ds ∧ ofDigits 16 ds = n % Nat.pow 16 width := by
  have hlower : asciiHexDigitValue ∘ Char.toLower = asciiHexDigitValue :=
    funext asciiHexDigitValue_toLower
  have hmap : (s.map Char.toLower).mapM asciiHexDigitValue = s.mapM asciiHexDigitValue := by
    rw [List.mapM_map, hlower]
  rw [← hmap, h]
  exact mapM_hexDigits (fun _ => asciiHexDigitValue_digitChar) width n

theorem exists_of_mapM_eq_some {α β : Type} {f : α → Option β} {l : List α} {bs : List β}
    (h : l.mapM f = some bs) :
    bs.length = l.length ∧ (∀ a ∈ l, ∃ b, f a = some b) ∧ ∀ b ∈ bs, ∃ a ∈ l, f a = some b := by
  induction l generalizing bs with
  | nil =>
    cases h
    exact ⟨rfl, by simp, by simp⟩
  | cons a l ih =>
    rw [List.mapM_cons] at h
    obtain ⟨b, hb, h⟩ := Option.bind_eq_some_iff.1 h
    obtain ⟨rest, hrest, h⟩ := Option.bind_eq_some_iff.1 h
    cases h
    obtain ⟨hlength, hread, hvalues⟩ := ih hrest
    refine ⟨congrArg (· + 1) hlength, ?_, ?_⟩ <;> rw [List.forall_mem_cons]
    · exact ⟨⟨b, hb⟩, hread⟩
    · refine ⟨⟨a, List.mem_cons_self, hb⟩, fun x hx => ?_⟩
      obtain ⟨y, hy, hyx⟩ := hvalues x hx
      exact ⟨y, List.mem_cons_of_mem _ hy, hyx⟩

theorem mapM_hexDigitValue {s : List Char} {ds : List Nat}
    (h : s.mapM asciiHexDigitValue = some ds) : s.mapM hexDigitValue = some ds := by
  induction s generalizing ds with
  | nil => exact h
  | cons c s ih =>
    rw [List.mapM_cons] at h
    obtain ⟨d, hd, h⟩ := Option.bind_eq_some_iff.1 h
    obtain ⟨rest, hrest, h⟩ := Option.bind_eq_some_iff.1 h
    rw [List.mapM_cons, (asciiHexDigitValue_eq_some_iff.1 hd).2, ih hrest]
    exact h

/-- Of a digit string every value is that of a character, and there are no more of them. -/
theorem length_grouped_le {value : Char → Option Nat} {s : List Char} {ds : List Nat}
    (h : grouped value s = some ds) :
    ds.length ≤ s.length ∧ ∀ d ∈ ds, ∃ c, value c = some d := by
  fun_induction grouped value s generalizing ds with
  | case1 => cases h
  | case2 c =>
    obtain ⟨d, hd, rfl⟩ := Option.map_eq_some_iff.1 h
    exact ⟨Nat.le_refl _, fun x hx => ⟨c, List.mem_singleton.1 hx ▸ hd⟩⟩
  | case3 c rest ih =>
    obtain ⟨d, hd, h⟩ := Option.bind_eq_some_iff.1 h
    obtain ⟨more, hmore, rfl⟩ := Option.map_eq_some_iff.1 h
    obtain ⟨hlength, hall⟩ := ih hmore
    refine ⟨by simp only [List.length_cons]; omega, ?_⟩
    rw [List.forall_mem_cons]
    exact ⟨⟨c, hd⟩, hall⟩
  | case4 c rest _ _ ih =>
    obtain ⟨d, hd, h⟩ := Option.bind_eq_some_iff.1 h
    obtain ⟨more, hmore, rfl⟩ := Option.map_eq_some_iff.1 h
    obtain ⟨hlength, hall⟩ := ih hmore
    refine ⟨by simp only [List.length_cons]; omega, ?_⟩
    rw [List.forall_mem_cons]
    exact ⟨⟨c, hd⟩, hall⟩

/-! ## Signs -/

/-- Whether a minus sign stands in front, and what follows the sign. -/
def splitSign : List Char → Bool × List Char
  | '-' :: rest => (true, rest)
  | '+' :: rest => (false, rest)
  | s => (false, s)

def applySign (negative : Bool) (n : Nat) : Int := if negative then -(n : Int) else n

end Stockroom.Number
