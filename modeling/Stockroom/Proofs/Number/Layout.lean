import Stockroom.Number.Layout
import Stockroom.Proofs.Number.Decimal
import Stockroom.Proofs.Number.Shortest

/-!
# The written digits of a real

Both ways to write a decimal keep its value. In positions it is some digits, a point and some more
digits; with an exponent it is one digit, the others behind a point if there are others, and the
exponent.
-/

namespace Stockroom.Number

/-! ## Digits -/

theorem digitValues_append (s t : List Char) :
    digitValues (s ++ t) = digitValues s ++ digitValues t := List.map_append

theorem digitValues_zeros (n : Nat) : digitValues (zeros n) = List.replicate n 0 :=
  List.map_replicate

theorem ofDigits_zeros (n : Nat) : ofDigits 10 (digitValues (zeros n)) = 0 := by
  rw [digitValues_zeros]
  induction n with
  | zero => rfl
  | succ n ih => rw [List.replicate_succ, ofDigits_cons, ih, Nat.zero_mul]

theorem ofDigits_zeros_append (n : Nat) (s : List Char) :
    ofDigits 10 (digitValues (zeros n ++ s)) = ofDigits 10 (digitValues s) := by
  rw [digitValues_append, ofDigits_append, ofDigits_zeros, Nat.zero_mul, Nat.zero_add]

theorem ofDigits_append_zeros (s : List Char) (n : Nat) :
    ofDigits 10 (digitValues (s ++ zeros n)) = ofDigits 10 (digitValues s) * 10 ^ n := by
  rw [digitValues_append, ofDigits_append, ofDigits_zeros, digitValues_zeros, List.length_replicate,
    Nat.add_zero]

theorem isDigit_of_mem_zeros {n : Nat} {c : Char} (h : c ∈ zeros n) : c.isDigit = true := by
  rw [List.eq_of_mem_replicate h]
  rfl

theorem ofDigits_toDigits (n : Nat) : ofDigits 10 (digitValues (Nat.toDigits 10 n)) = n := by
  rw [ofDigits_digitValues, Nat.ofDigitChars_ten_toDigits]

theorem head_toDigits {n : Nat} (hn : 0 < n) : (Nat.toDigits 10 n).head? ≠ some '0' := by
  induction n using Nat.strongRecOn with
  | ind n ih =>
    rw [Nat.toDigits_eq_if (by decide)]
    split
    · next hlt =>
      have hdigit : ∀ d < 10, 0 < d → [Nat.digitChar d].head? ≠ some '0' := by decide
      exact hdigit n hlt hn
    · next hge =>
      have hquotient := ih (n / 10) (by omega) (by omega)
      rwa [List.head?_append_of_ne_nil _ Nat.toDigits_ne_nil]

theorem ofDigits_padded (width n : Nat) : ofDigits 10 (digitValues (padded width n)) = n := by
  rw [padded, ofDigits_zeros_append, ofDigits_toDigits]

theorem isDigit_of_mem_padded {width n : Nat} {c : Char} (h : c ∈ padded width n) :
    c.isDigit = true := by
  rcases List.mem_append.1 h with h | h
  · exact isDigit_of_mem_zeros h
  · exact isDigit_of_mem_toDigits h

theorem padded_ne_nil (width n : Nat) : padded width n ≠ [] :=
  List.append_ne_nil_of_right_ne_nil _ Nat.toDigits_ne_nil

/-! ## Positions -/

/-- Digits that may stand in front of a point: a zero alone, or digits that begin with another. -/
structure IsWhole (s : List Char) : Prop where
  ne_nil : s ≠ []
  digits : ∀ c ∈ s, c.isDigit = true
  head : s = ['0'] ∨ s.head? ≠ some '0'

theorem isWhole_zero : IsWhole ['0'] :=
  ⟨List.cons_ne_nil _ _, List.forall_mem_singleton.2 rfl, Or.inl rfl⟩

/-- The value of some digits with a point behind the first of them. -/
def pointValue (whole fraction : List Char) : ℚ :=
  ofDigits 10 (digitValues (whole ++ fraction)) * 10 ^ (-(fraction.length : Int))

theorem isWhole_append_zeros {n : Nat} (hn : 0 < n) (k : Nat) :
    IsWhole (Nat.toDigits 10 n ++ zeros k) where
  ne_nil := List.append_ne_nil_of_left_ne_nil Nat.toDigits_ne_nil _
  digits c hc := (List.mem_append.1 hc).elim isDigit_of_mem_toDigits isDigit_of_mem_zeros
  head := by
    rw [List.head?_append_of_ne_nil _ Nat.toDigits_ne_nil]
    exact Or.inr (head_toDigits hn)

theorem isWhole_take {n k : Nat} (hn : 0 < n) (hk : 0 < k) :
    IsWhole ((Nat.toDigits 10 n).take k) where
  ne_nil h := by
    rcases List.take_eq_nil_iff.1 h with h | h
    · omega
    · exact Nat.toDigits_ne_nil h
  digits c hc := isDigit_of_mem_toDigits (List.mem_of_mem_take hc)
  head := by
    rw [List.head?_take, if_neg (by omega)]
    exact Or.inr (head_toDigits hn)

/-- The text has digits on both sides of a point, and they come to a value. -/
def IsPositional (text : List Char) (q : ℚ) : Prop :=
  ∃ whole fraction, text = whole ++ '.' :: fraction ∧ IsWhole whole ∧ fraction ≠ [] ∧
    (∀ c ∈ fraction, c.isDigit = true) ∧ pointValue whole fraction = q

variable {n : Nat} {e : Int}

theorem isPositional_of_neg (he : e < 0) :
    IsPositional ('0' :: '.' :: (zeros (-e - 1).toNat ++ Nat.toDigits 10 n))
      (Decimal.value ⟨n, e⟩) := by
  refine ⟨['0'], _, rfl, isWhole_zero, List.append_ne_nil_of_right_ne_nil _ Nat.toDigits_ne_nil,
    fun c hc => (List.mem_append.1 hc).elim isDigit_of_mem_zeros isDigit_of_mem_toDigits, ?_⟩
  have hplaces : -(((-e - 1).toNat + (Nat.toDigits 10 n).length : Nat) : Int) =
      e - ((Nat.toDigits 10 n).length - 1) := by omega
  have hzeros : ['0'] ++ zeros (-e - 1).toNat = zeros ((-e - 1).toNat + 1) := rfl
  rw [pointValue, ← List.append_assoc, hzeros, ofDigits_zeros_append, ofDigits_toDigits,
    List.length_append, zeros, List.length_replicate, hplaces]
  rfl

theorem isPositional_of_le (hn : 0 < n) (hlong : digitCount n ≤ e.toNat + 1) :
    IsPositional (Nat.toDigits 10 n ++ zeros (e.toNat + 1 - digitCount n) ++ '.' :: ['0'])
      (Decimal.value ⟨n, e.toNat⟩) := by
  refine ⟨_, ['0'], rfl, isWhole_append_zeros hn _, isWhole_zero.ne_nil, isWhole_zero.digits, ?_⟩
  have hplaces : (e.toNat : Int) - (digitCount n - 1) =
      ((e.toNat + 1 - digitCount n + 1 : Nat) : Int) + -1 := by omega
  have hzeros : zeros (e.toNat + 1 - digitCount n) ++ ['0'] =
      zeros (e.toNat + 1 - digitCount n + 1) :=
    List.replicate_append_replicate (n := e.toNat + 1 - digitCount n) (m := 1)
  rw [pointValue, List.append_assoc, hzeros, ofDigits_append_zeros, ofDigits_toDigits,
    Decimal.value, hplaces, zpow_add₀ (by norm_num), zpow_natCast]
  push_cast
  rw [mul_assoc]
  rfl

theorem isPositional_of_lt (hn : 0 < n) (hlong : e.toNat + 1 < digitCount n) :
    IsPositional ((Nat.toDigits 10 n).take (e.toNat + 1) ++ '.' ::
      (Nat.toDigits 10 n).drop (e.toNat + 1)) (Decimal.value ⟨n, e.toNat⟩) := by
  have hplaces : -(((Nat.toDigits 10 n).length - (e.toNat + 1) : Nat) : Int) =
      e.toNat - (digitCount n - 1) := by
    have : (Nat.toDigits 10 n).length = digitCount n := rfl
    omega
  refine ⟨_, _, rfl, isWhole_take hn (Nat.succ_pos _), fun h => ?_,
    fun c hc => isDigit_of_mem_toDigits (List.mem_of_mem_drop hc), ?_⟩
  · exact Nat.not_le.2 hlong (List.drop_eq_nil_iff.1 h)
  · rw [pointValue, List.take_append_drop, List.length_drop, hplaces, ofDigits_toDigits]
    rfl

theorem isPositional_positional (hn : 0 < n) (e : Int) :
    IsPositional (positional (Nat.toDigits 10 n) e) (Decimal.value ⟨n, e⟩) := by
  unfold positional
  split
  · next he => exact isPositional_of_neg he
  · next he =>
    have hlength : (Nat.toDigits 10 n).length = digitCount n := rfl
    obtain ⟨k, rfl⟩ := Int.eq_ofNat_of_zero_le (Int.not_lt.1 he)
    dsimp only
    rcases Nat.lt_or_ge ((k : Int).toNat + 1) (digitCount n) with hlong | hlong
    · have hfraction : (Nat.toDigits 10 n).drop ((k : Int).toNat + 1) ≠ [] :=
        fun h => Nat.not_le.2 hlong (List.drop_eq_nil_iff.1 h)
      rw [if_neg (by simpa using hfraction), hlength, Nat.sub_eq_zero_of_le hlong.le, zeros,
        List.replicate_zero, List.append_nil]
      exact isPositional_of_lt hn hlong
    · rw [List.take_of_length_le hlong, List.drop_of_length_le hlong]
      exact isPositional_of_le hn hlong

/-! ## Exponents -/

/-- A fraction that is left out if it has no digits. -/
def optionalFraction (fraction : List Char) : List Char :=
  if fraction.isEmpty then [] else '.' :: fraction

theorem exists_scientific (hn : 0 < n) (width : Nat) (e : Int) :
    ∃ whole fraction, scientific width (Nat.toDigits 10 n) e =
        whole ++ optionalFraction fraction ++
          'e' :: (if e < 0 then '-' else '+') :: padded width e.natAbs ∧
      IsWhole whole ∧ (∀ c ∈ fraction, c.isDigit = true) ∧
      pointValue whole fraction * 10 ^ e = Decimal.value ⟨n, e⟩ := by
  have hcount : 0 < digitCount n := Nat.length_toDigits_pos
  have hlength : (((Nat.toDigits 10 n).drop 1).length : Int) = digitCount n - 1 := by
    rw [List.length_drop]
    show ((digitCount n - 1 : Nat) : Int) = _
    omega
  refine ⟨(Nat.toDigits 10 n).take 1, (Nat.toDigits 10 n).drop 1, rfl, isWhole_take hn Nat.one_pos,
    fun c hc => isDigit_of_mem_toDigits (List.mem_of_mem_drop hc), ?_⟩
  rw [pointValue, List.take_append_drop, hlength, ofDigits_toDigits, mul_assoc,
    ← zpow_add₀ (by norm_num), neg_add_eq_sub]
  rfl

end Stockroom.Number
