import Stockroom.Proofs.Listing
import Stockroom.Proofs.Number.Integer

/-!
# Numbers above zero

The page and the rows of a list request are numbers from one to `maxInt64`. The default stands for a
parameter that is missing or empty. Any other text is read exactly if it spells such a number, and
what is wrong with the rest is one of three things: it spells no integer, or one below the range, or
one above it.
-/

namespace Stockroom.Listing

open Number Text

/-- What is wrong with a text that spells no number in the range. -/
inductive PositiveFault (raw : Points) : ParamFault → Prop
  | notInteger (h : ∀ n, ¬ SpellsInteger raw n) : PositiveFault raw (.notInteger raw)
  | belowOne {n : Int} (h : SpellsInteger raw n) (hn : n ≤ 0) : PositiveFault raw .belowOne
  | aboveMax {n : Int} (h : SpellsInteger raw n) (hn : maxInt64 < n) : PositiveFault raw .aboveMax

section

variable {raw : Points} {n : Int} {f : ParamFault}

theorem readPositive_of_spells (h : SpellsInteger raw n) :
    readPositive raw =
      if n < 1 then .error .belowOne else if maxInt64 < n then .error .aboveMax else .ok n := by
  rw [readPositive, readPoints?_integer_iff.2 h]

theorem readPositive_of_not_spells (h : ∀ n, ¬ SpellsInteger raw n) :
    readPositive raw = .error (.notInteger raw) := by
  have hread : readPoints? integerOfText? raw = none :=
    Option.eq_none_iff_forall_ne_some.2 fun n hn => h n (readPoints?_integer_iff.1 hn)
  rw [readPositive, hread]

theorem PositiveFault.readPositive_eq (h : PositiveFault raw f) : readPositive raw = .error f := by
  cases h with
  | notInteger h => exact readPositive_of_not_spells h
  | belowOne h hn => rw [readPositive_of_spells h, if_pos (by omega)]
  | aboveMax h hn =>
    have hpositive : 0 < maxInt64 := by decide
    rw [readPositive_of_spells h, if_neg (by omega), if_pos hn]

theorem spells_or_fault (raw : Points) :
    (∃ n, SpellsInteger raw n ∧ 1 ≤ n ∧ n ≤ maxInt64) ∨ ∃ f, PositiveFault raw f := by
  by_cases hspells : ∃ n, SpellsInteger raw n
  · obtain ⟨n, h⟩ := hspells
    by_cases hlow : n < 1
    · exact Or.inr ⟨_, .belowOne h (by omega)⟩
    by_cases hhigh : maxInt64 < n
    · exact Or.inr ⟨_, .aboveMax h hhigh⟩
    · exact Or.inl ⟨n, h, by omega, by omega⟩
  · exact Or.inr ⟨_, .notInteger (not_exists.1 hspells)⟩

theorem readPositive_eq_ok_iff :
    readPositive raw = .ok n ↔ SpellsInteger raw n ∧ 1 ≤ n ∧ n ≤ maxInt64 := by
  constructor
  · intro h
    rcases spells_or_fault raw with ⟨m, hm, hlow, hhigh⟩ | ⟨f, hf⟩
    · rw [readPositive_of_spells hm, if_neg (by omega), if_neg (by omega)] at h
      cases h
      exact ⟨hm, hlow, hhigh⟩
    · rw [hf.readPositive_eq] at h
      cases h
  · rintro ⟨h, hlow, hhigh⟩
    rw [readPositive_of_spells h, if_neg (by omega), if_neg (by omega)]

theorem readPositive_eq_error_iff : readPositive raw = .error f ↔ PositiveFault raw f := by
  constructor
  · intro h
    rcases spells_or_fault raw with ⟨m, hm, hlow, hhigh⟩ | ⟨told, htold⟩
    · rw [readPositive_of_spells hm, if_neg (by omega), if_neg (by omega)] at h
      cases h
    · rw [htold.readPositive_eq] at h
      cases h
      exact htold
  · exact PositiveFault.readPositive_eq

/-! ## Messages -/

theorem append_ne_of_getLast? {s t u : String} (ht : t.toList ≠ [])
    (h : t.toList.getLast? ≠ u.toList.getLast?) : s ++ t ≠ u := by
  rintro rfl
  rw [String.toList_append, List.getLast?_append_of_ne_nil _ ht] at h
  exact h rfl

/-- The three messages differ, whatever the text is, so each is about one thing that is wrong. -/
theorem PositiveFault.message_iff (h : PositiveFault raw f) :
    (f.message = quoted raw ++ " is not an integer" ↔ ∀ n, ¬ SpellsInteger raw n) ∧
      (f.message = "must be at least 1" ↔ ∃ n, SpellsInteger raw n ∧ n ≤ 0) ∧
      (f.message = "must be at most 9223372036854775807" ↔
        ∃ n, SpellsInteger raw n ∧ maxInt64 < n) := by
  have hbelow : quoted raw ++ " is not an integer" ≠ "must be at least 1" :=
    append_ne_of_getLast? (by decide) (by decide)
  have habove : quoted raw ++ " is not an integer" ≠ "must be at most 9223372036854775807" :=
    append_ne_of_getLast? (by decide) (by decide)
  have hrange : (0 : Int) < maxInt64 := by decide
  have hmax : ParamFault.aboveMax.message = "must be at most 9223372036854775807" := by decide
  cases h with
  | notInteger h =>
    refine ⟨iff_of_true rfl h, iff_of_false hbelow ?_, iff_of_false habove ?_⟩
    · exact fun ⟨n, hn, _⟩ => h n hn
    · exact fun ⟨n, hn, _⟩ => h n hn
  | @belowOne n h hn =>
    refine ⟨iff_of_false hbelow.symm fun hnone => hnone n h, iff_of_true rfl ⟨n, h, hn⟩,
      iff_of_false (by decide) ?_⟩
    rintro ⟨m, hm, hlarge⟩
    have := h.unique hm
    omega
  | @aboveMax n h hn =>
    rw [hmax]
    refine ⟨iff_of_false habove.symm fun hnone => hnone n h, iff_of_false (by decide) ?_,
      iff_of_true rfl ⟨n, h, hn⟩⟩
    rintro ⟨m, hm, hsmall⟩
    have := h.unique hm
    omega

end

/-! ## Parameters -/

section

variable {ps : Params} {name : Points}

theorem positiveInt_of_value_eq_nil (h : value ps name = []) (default : Int) :
    positiveInt ps name default = .ok default := by
  rw [positiveInt, param_of_value_eq_nil h]
  rfl

end

/-- A number in the range is read from exactly the texts that spell it, with leading zeros or
without. Every other text is refused as a fault of its parameter alone, with the one of the three
messages that is about it. -/
theorem positive_numbers_specified (ps : Params) (name : Points) (default : Int) :
    (value ps name = [] → positiveInt ps name default = .ok default) ∧
      (value ps name ≠ [] →
        (∀ n, positiveInt ps name default = .ok n ↔
          ∃ m : Nat, SpellsNatural (value ps name) m ∧ n = m ∧ 1 ≤ n ∧ n ≤ maxInt64) ∧
        (∀ k m : Nat, 1 ≤ m → (m : Int) ≤ maxInt64 →
          k + (Nat.toDigits 10 m).length ≤ digitLimit →
          value ps name = (zeros k ++ Nat.toDigits 10 m).map Char.toNat →
          positiveInt ps name default = .ok m) ∧
        (∀ fault, positiveInt ps name default = .error fault ↔
          ∃ f, PositiveFault (value ps name) f ∧ fault = .bad name f) ∧
        ((¬ ∃ m : Nat, SpellsNatural (value ps name) m ∧ 1 ≤ m ∧ (m : Int) ≤ maxInt64) →
          ∃ f, PositiveFault (value ps name) f) ∧
        ∀ f, PositiveFault (value ps name) f →
          (ListFault.bad name f).problem = .fields [(name, points f.message)] ∧
          (f.message = quoted (value ps name) ++ " is not an integer" ↔
            ∀ n, ¬ SpellsInteger (value ps name) n) ∧
          (f.message = "must be at least 1" ↔ ∃ n, SpellsInteger (value ps name) n ∧ n ≤ 0) ∧
          (f.message = "must be at most 9223372036854775807" ↔
            ∃ n, SpellsInteger (value ps name) n ∧ maxInt64 < n)) := by
  refine ⟨fun h => positiveInt_of_value_eq_nil h default, fun hne => ?_⟩
  have hread (n : Int) : positiveInt ps name default = .ok n ↔
      ∃ m : Nat, SpellsNatural (value ps name) m ∧ n = m ∧ 1 ≤ n ∧ n ≤ maxInt64 := by
    rw [positiveInt, param_getD_eq_ok_iff hne, readPositive_eq_ok_iff]
    constructor
    · rintro ⟨h, hlow, hhigh⟩
      obtain ⟨m, hm, heq⟩ := h.exists_natural hlow
      exact ⟨m, hm, heq, hlow, hhigh⟩
    · rintro ⟨m, hm, rfl, hlow, hhigh⟩
      exact ⟨.natural hm, hlow, hhigh⟩
  refine ⟨hread, fun k m hlow hhigh hlength hraw => ?_, fun fault => ?_, fun hnone => ?_,
    fun f hf => ?_⟩
  · have hspells : SpellsBehind [] (value ps name) m :=
      ⟨[], _, [], by simp [hraw], by simp, denotes_decimal hlength⟩
    exact (hread m).2 ⟨m, Or.inl hspells, rfl, by omega, hhigh⟩
  · rw [positiveInt, param_getD_eq_error_iff hne]
    simp only [readPositive_eq_error_iff]
  · rcases spells_or_fault (value ps name) with ⟨n, h, hlow, hhigh⟩ | hfault
    · obtain ⟨m, hm, rfl⟩ := h.exists_natural hlow
      exact absurd ⟨m, hm, by omega, hhigh⟩ hnone
    · exact hfault
  · exact ⟨rfl, hf.message_iff⟩

/-- Digits of two scripts with a mark between them, blanks and a sign; as many zeros as fit in front
of the largest number; and a text of each kind that is refused. -/
theorem page_texts_read :
    positiveInt [("page", "")] "page" 7 = .ok 7 ∧
      positiveInt [("page", " +\u0661_2\u3000")] "page" 7 = .ok 12 ∧
      positiveInt [("page", (zeros 4281 ++ Nat.toDigits 10 9223372036854775807).map Char.toNat)]
        "page" 7 = .ok maxInt64 ∧
      positiveInt [("page", "1__2")] "page" 7 = .error (.bad "page" (.notInteger "1__2")) ∧
      positiveInt [("page", "-0")] "page" 7 = .error (.bad "page" .belowOne) ∧
      positiveInt [("page", "9223372036854775808")] "page" 7 = .error (.bad "page" .aboveMax) := by
  refine ⟨?_, ?_, ?_, ?_, ?_, ?_⟩
  · exact (positive_numbers_specified [("page", "")] "page" 7).1 rfl
  · have hne : value [("page", " +\u0661_2\u3000")] "page" ≠ [] := by decide
    have hdigits : Denotes ['\u0661', '_', '2'] 12 :=
      ⟨[1, 2], .marked rfl (.last rfl), by decide, rfl⟩
    have hblank : ∀ c ∈ [' '] ++ ['\u3000'], isBlank c = true := List.all_eq_true.1 rfl
    have hspells : SpellsNatural (value [("page", " +\u0661_2\u3000")] "page") 12 :=
      Or.inr ⟨[' '], ['\u0661', '_', '2'], ['\u3000'], by decide, hblank, hdigits⟩
    exact (((positive_numbers_specified _ _ 7).2 hne).1 12).2 ⟨12, hspells, by decide⟩
  · have hvalue (raw : Points) : value [("page", raw)] "page" = raw := by
      rw [value_singleton, if_pos rfl]
    have hne : (zeros 4281 ++ Nat.toDigits 10 9223372036854775807).map Char.toNat ≠ [] := by simp
    rw [← hvalue ((zeros 4281 ++ Nat.toDigits 10 9223372036854775807).map Char.toNat)] at hne
    obtain ⟨-, hzeros, -⟩ := (positive_numbers_specified _ _ 7).2 hne
    exact hzeros 4281 9223372036854775807 (by decide) (by decide) (by decide) (hvalue _)
  · have hne : value [("page", "1__2")] "page" ≠ [] := by decide
    have hnone : ∀ n, ¬ SpellsInteger (value [("page", "1__2")] "page") n := by
      intro n hn
      have hread : readPoints? integerOfText? (value [("page", "1__2")] "page") = none := by decide
      rw [readPoints?_integer_iff.2 hn] at hread
      cases hread
    obtain ⟨-, -, hrefused, -⟩ := (positive_numbers_specified _ _ 7).2 hne
    exact (hrefused _).2 ⟨_, .notInteger hnone, rfl⟩
  · have hne : value [("page", "-0")] "page" ≠ [] := by decide
    obtain ⟨-, -, hrefused, -⟩ := (positive_numbers_specified _ _ 7).2 hne
    exact (hrefused _).2
      ⟨_, .belowOne (n := 0) (readPoints?_integer_iff.1 (by decide)) (by decide), rfl⟩
  · have hne : value [("page", "9223372036854775808")] "page" ≠ [] := by decide
    obtain ⟨-, -, hrefused, -⟩ := (positive_numbers_specified _ _ 7).2 hne
    exact (hrefused _).2 ⟨_, .aboveMax (n := 9223372036854775808)
      (readPoints?_integer_iff.1 (by decide)) (by decide), rfl⟩

end Stockroom.Listing
