import Mathlib.Algebra.Ring.Nat
import Stockroom.Number.Integer
import Stockroom.Proofs.Uuid

/-!
# The decimal text of an integer

What is written for an integer is read back as that integer: its digits are digits of ASCII without
a mark between them, and a minus sign is the only thing that may stand in front of them.
-/

namespace Stockroom.Number

open Text

/-! ## Digits -/

theorem digitValue_of_isDigit {c : Char} (h : c.isDigit = true) :
    digitValue c = some (c.toNat - 48) := by
  have hrange : 48 ≤ c.toNat ∧ c.toNat ≤ 57 := Char.isDigit_iff_toNat.1 h
  rw [digitValue, digitZeros, List.find?_cons_of_pos]
  · rfl
  · rw [decide_eq_true_eq]
    omega

theorem asciiDigitValue_of_isDigit {c : Char} (h : c.isDigit = true) :
    asciiDigitValue c = some (c.toNat - 48) := by
  rw [asciiDigitValue, if_pos h]

theorem mapM_eq_some_map {α β : Type} {f : α → Option β} {g : α → β} {l : List α}
    (h : ∀ a ∈ l, f a = some (g a)) : l.mapM f = some (l.map g) := by
  induction l with
  | nil => rfl
  | cons a l ih =>
    rw [List.forall_mem_cons] at h
    rw [List.mapM_cons, h.1, ih h.2]
    rfl

/-- The values of some digits of ASCII. -/
def digitValues (s : List Char) : List Nat := s.map fun c => c.toNat - 48

theorem ofDigits_digitValues (s : List Char) :
    ofDigits 10 (digitValues s) = Nat.ofDigitChars 10 s 0 := by
  rw [ofDigits, digitValues, List.foldl_map]
  rfl

theorem isDigit_of_mem_toDigits {n : Nat} {c : Char} (h : c ∈ Nat.toDigits 10 n) :
    c.isDigit = true :=
  Nat.isDigit_of_mem_toDigits (by decide) (by decide) h

theorem not_mem_toDigits {n : Nat} {c : Char} (hc : c.isDigit = false) : c ∉ Nat.toDigits 10 n := by
  intro h
  rw [isDigit_of_mem_toDigits h] at hc
  cases hc

theorem grouped_toDigits (n : Nat) :
    grouped digitValue (Nat.toDigits 10 n) = some (digitValues (Nat.toDigits 10 n)) := by
  rw [grouped_of_not_mem Nat.toDigits_ne_nil Nat.underscore_not_in_toDigits]
  exact mapM_eq_some_map fun c hc => digitValue_of_isDigit (isDigit_of_mem_toDigits hc)

theorem natOfText?_toDigits {n : Nat} (hn : n < 10 ^ digitLimit) :
    natOfText? (Nat.toDigits 10 n) = some n := by
  have hlength : (digitValues (Nat.toDigits 10 n)).length ≤ digitLimit := by
    rw [digitValues, List.length_map]
    exact (Nat.length_toDigits_le_iff (by decide) (by decide)).2 hn
  rw [natOfText?, grouped_toDigits, Option.bind_some, if_pos hlength, ofDigits_digitValues,
    Nat.ofDigitChars_ten_toDigits]

/-! ## Integers -/

theorem toList_toString (n : Int) :
    (toString n).toList = (if n < 0 then ['-'] else []) ++ Nat.toDigits 10 n.natAbs := by
  cases n with
  | ofNat m =>
    rw [if_neg (by simp)]
    exact Nat.toList_repr
  | negSucc m =>
    rw [if_pos (Int.negSucc_lt_zero m)]
    show ("-" ++ Nat.repr (m + 1)).toList = _
    rw [String.toList_append, Nat.toList_repr]
    rfl

theorem isBlank_of_mem_toString {n : Int} {c : Char} (h : c ∈ (toString n).toList) :
    isBlank c = false := by
  rw [toList_toString, List.mem_append] at h
  rcases h with h | h
  · split at h
    · rw [List.mem_singleton.1 h]
      rfl
    · exact absurd h List.not_mem_nil
  · have hrange : 48 ≤ c.toNat ∧ c.toNat ≤ 57 :=
      Char.isDigit_iff_toNat.1 (isDigit_of_mem_toDigits h)
    simp [isBlank]
    omega

theorem splitSign_toString (n : Int) :
    splitSign (toString n).toList = (decide (n < 0), Nat.toDigits 10 n.natAbs) := by
  rw [toList_toString]
  by_cases hn : n < 0
  · rw [if_pos hn, decide_eq_true hn]
    rfl
  · rw [if_neg hn, decide_eq_false hn, List.nil_append]
    exact Uuid.splitSign_of_not_mem (not_mem_toDigits rfl) (not_mem_toDigits rfl)

theorem applySign_natAbs (n : Int) : applySign (decide (n < 0)) n.natAbs = n := by
  unfold applySign
  by_cases hn : n < 0
  · rw [decide_eq_true hn, if_pos rfl]
    omega
  · rw [decide_eq_false hn, if_neg (by decide)]
    omega

theorem integerOfText?_toString {n : Int} (hn : n.natAbs < 10 ^ digitLimit) :
    integerOfText? (toString n).toList = some n := by
  rw [integerOfText?, trim_of_forall fun c hc => isBlank_of_mem_toString hc, splitSign_toString]
  dsimp only
  rw [natOfText?_toDigits hn, Option.map_some, applySign_natAbs]

theorem natAbs_lt_of_int64 {n : Int} (hn : (n.natAbs : Int) ≤ maxInt64 + 1) :
    n.natAbs < 10 ^ digitLimit := by
  have hsmall : n.natAbs < 10 ^ 19 := by
    rw [maxInt64] at hn
    omega
  exact Nat.lt_of_lt_of_le hsmall (Nat.pow_le_pow_right (by decide) (by decide))

end Stockroom.Number
