/-!
# Digits

The decimal digits are the general category Nd of Unicode 14: every script's digits zero to nine
stand next to each other. A digit to base sixteen is one of them, or a letter a to f in either case.
-/

namespace Stockroom.Text

/-- The zero of each script. The nine characters after it are its other digits. -/
def digitZeros : List Nat :=
  [0x30, 0x660, 0x6F0, 0x7C0, 0x966, 0x9E6, 0xA66, 0xAE6, 0xB66, 0xBE6, 0xC66, 0xCE6, 0xD66,
   0xDE6, 0xE50, 0xED0, 0xF20, 0x1040, 0x1090, 0x17E0, 0x1810, 0x1946, 0x19D0, 0x1A80, 0x1A90,
   0x1B50, 0x1BB0, 0x1C40, 0x1C50, 0xA620, 0xA8D0, 0xA900, 0xA9D0, 0xA9F0, 0xAA50, 0xABF0,
   0xFF10, 0x104A0, 0x10D30, 0x11066, 0x110F0, 0x11136, 0x111D0, 0x112F0, 0x11450, 0x114D0,
   0x11650, 0x116C0, 0x11730, 0x118E0, 0x11950, 0x11C50, 0x11D50, 0x11DA0, 0x16A60, 0x16AC0,
   0x16B50, 0x1D7CE, 0x1D7D8, 0x1D7E2, 0x1D7EC, 0x1D7F6, 0x1E140, 0x1E2F0, 0x1E950, 0x1FBF0]

/-- The value of a decimal digit of any script. -/
def digitValue (c : Char) : Option Nat :=
  (digitZeros.find? fun start => decide (start ≤ c.toNat ∧ c.toNat < start + 10)).map
    fun start => c.toNat - start

def asciiDigitValue (c : Char) : Option Nat :=
  if c.isDigit then some (c.toNat - 48) else none

/-- The value of a digit to base sixteen, where the digits below ten may be of any script. -/
def hexDigitValue (c : Char) : Option Nat :=
  if 'a' ≤ c ∧ c ≤ 'f' then some (c.toNat - 87)
  else if 'A' ≤ c ∧ c ≤ 'F' then some (c.toNat - 55)
  else digitValue c

def asciiHexDigitValue (c : Char) : Option Nat :=
  if c.toNat < 128 then hexDigitValue c else none

/-- The last `width` digits of a number to base sixteen. -/
def hexDigits : (width : Nat) → Nat → List Char
  | 0, _ => []
  | width + 1, n => hexDigits width (n / 16) ++ [Nat.digitChar (n % 16)]

theorem hexDigits_length (width n : Nat) : (hexDigits width n).length = width := by
  induction width generalizing n with
  | zero => rfl
  | succ width ih => simp [hexDigits, ih]

theorem digitValue_lt {c : Char} {d : Nat} (h : digitValue c = some d) : d < 10 := by
  obtain ⟨start, hfind, rfl⟩ := Option.map_eq_some_iff.1 h
  have hrange := List.find?_some hfind
  simp only [decide_eq_true_eq] at hrange
  omega

theorem hexDigitValue_lt {c : Char} {d : Nat} (h : hexDigitValue c = some d) : d < 16 := by
  unfold hexDigitValue at h
  split at h
  · next hc =>
    have hle : c.toNat ≤ 102 := hc.2
    simp only [Option.some.injEq] at h
    omega
  · split at h
    · next hc =>
      have hle : c.toNat ≤ 70 := hc.2
      simp only [Option.some.injEq] at h
      omega
    · have := digitValue_lt h
      omega

/-- What holds of the sixteen digits holds of every character of a number. -/
theorem forall_mem_hexDigits {P : Char → Prop} (h : ∀ d < 16, P (Nat.digitChar d))
    (width n : Nat) : ∀ c ∈ hexDigits width n, P c := by
  induction width generalizing n with
  | zero => simp [hexDigits]
  | succ width ih =>
    intro c hc
    rw [hexDigits, List.mem_append, List.mem_singleton] at hc
    rcases hc with hc | rfl
    · exact ih (n / 16) c hc
    · exact h _ (Nat.mod_lt _ (by decide))

/-! ## Letters in either case -/

/-- What holds of the first 128 characters holds of every character of ASCII. -/
theorem forall_ascii {P : Char → Prop} (h : ∀ n < 128, P (Char.ofNat n)) {c : Char}
    (hc : c.toNat < 128) : P c := by
  rw [← Char.ofNat_toNat c]
  exact h _ hc

theorem toLower_of_not_lt {c : Char} (h : ¬ c.toNat < 128) : c.toLower = c := by
  refine dif_neg ?_
  rintro ⟨-, hle⟩
  have : c.toNat ≤ 90 := hle
  omega

theorem asciiHexDigitValue_toLower (c : Char) :
    asciiHexDigitValue c.toLower = asciiHexDigitValue c := by
  by_cases hc : c.toNat < 128
  · exact forall_ascii (P := fun c => asciiHexDigitValue c.toLower = asciiHexDigitValue c)
      (by decide +kernel) hc
  · rw [toLower_of_not_lt hc]

theorem asciiHexDigitValue_digitChar {d : Nat} (h : d < 16) :
    asciiHexDigitValue (Nat.digitChar d) = some d := by
  revert d
  decide

theorem asciiHexDigitValue_eq_some_iff {c : Char} {d : Nat} :
    asciiHexDigitValue c = some d ↔ c.toNat < 128 ∧ hexDigitValue c = some d := by
  unfold asciiHexDigitValue
  split <;> simp [*]

theorem toLower_of_asciiHexDigitValue {c : Char} {d : Nat} (h : asciiHexDigitValue c = some d) :
    c.toLower = Nat.digitChar d := by
  obtain ⟨hc, hvalue⟩ := asciiHexDigitValue_eq_some_iff.1 h
  have hall : ∀ n < 128, ∀ d < 16, asciiHexDigitValue (Char.ofNat n) = some d →
      (Char.ofNat n).toLower = Nat.digitChar d := by
    decide +kernel
  exact forall_ascii (P := fun c => ∀ d < 16, asciiHexDigitValue c = some d →
    c.toLower = Nat.digitChar d) hall hc d (hexDigitValue_lt hvalue) h

end Stockroom.Text
