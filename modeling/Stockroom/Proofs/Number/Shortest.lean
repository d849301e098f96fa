import Mathlib.Data.Nat.Cast.Field
import Stockroom.Number.Shortest
import Stockroom.Proofs.Number.Nearest

/-!
# Shortest digits are read back

Every finite value is a whole number of units, so some digits name it: all of them do. Whatever
neighbours the search looks at, it takes digits only if they are nearest to the rank that they are
for. Zeros at their end are no part of the value.
-/

namespace Stockroom.Number

open Real64

/-! ## Units -/

theorem le_magnitude_exponent (rank : Nat) : -1074 ≤ (magnitude rank).2 := by
  unfold magnitude
  split
  · exact Int.le_refl _
  · next h =>
    have : 1 ≤ rank / binade := (Nat.one_le_div_iff binade_pos).2 (Nat.le_of_not_lt h)
    show -1074 ≤ ((rank / binade : Nat) : Int) - 1075
    omega

theorem one_le_magnitude {rank : Nat} (h : 0 < rank) : 1 ≤ (magnitude rank).1 := by
  have := binade_pos
  unfold magnitude
  split
  · exact h
  · show 1 ≤ binade + rank % binade
    omega

theorem inUnits_div (rank : Nat) : (inUnits rank : ℚ) / 10 ^ unitPlaces = value rank := by
  have hexponent := le_magnitude_exponent rank
  rw [value, inUnits]
  generalize magnitude rank = m at hexponent
  obtain ⟨m, e⟩ := m
  dsimp only at hexponent ⊢
  split
  · next he =>
    obtain ⟨k, rfl⟩ := Int.eq_ofNat_of_zero_le he
    rw [Int.toNat_natCast, Nat.pow_eq, Nat.pow_eq, zpow_natCast]
    push_cast
    rw [mul_div_cancel_right₀ _ (by positivity)]
  · next he =>
    obtain ⟨k, hk⟩ := Int.eq_ofNat_of_zero_le (show 0 ≤ -e by omega)
    obtain rfl : e = -k := by omega
    have hdvd : 2 ^ k ∣ m * 10 ^ unitPlaces := by
      have hpow : 2 ^ k ∣ 2 ^ unitPlaces := Nat.pow_dvd_pow 2 (by rw [unitPlaces]; omega)
      exact (hpow.trans (pow_dvd_pow_of_dvd (by decide) _)).mul_left m
    rw [Int.neg_neg, Int.toNat_natCast, Nat.pow_eq, Nat.pow_eq, Nat.cast_div hdvd (by positivity),
      zpow_neg, zpow_natCast]
    push_cast
    field_simp

theorem nearestRank_inUnits {rank : Nat} (h : rank < infinityRank) :
    nearestRank (inUnits rank) (Nat.pow 10 unitPlaces) = rank := by
  rw [Nat.pow_eq, nearestRank_eq _ (by positivity), Nat.cast_pow, Nat.cast_ofNat, inUnits_div,
    rankOf_value h]

theorem le_inUnits {rank : Nat} (h : 0 < rank) : 10 ^ 16 ≤ inUnits rank := by
  have hone : (1 : ℚ) ≤ (magnitude rank).1 := by exact_mod_cast one_le_magnitude h
  have htwo : (2 : ℚ) ^ (1074 : Int) ≤ 10 ^ (1084 : Int) :=
    calc (2 : ℚ) ^ (1074 : Int) ≤ 2 ^ (1084 : Int) := zpow_le_zpow_right₀ one_le_two (by norm_num)
      _ ≤ 10 ^ (1084 : Int) := zpow_le_zpow_left₀ (by norm_num) (by norm_num) (by norm_num)
  have hvalue : (10 : ℚ) ^ (-1084 : Int) ≤ value rank :=
    calc (10 : ℚ) ^ (-1084 : Int) = (10 ^ (1084 : Int))⁻¹ := zpow_neg _ _
      _ ≤ (2 ^ (1074 : Int))⁻¹ := inv_anti₀ (by positivity) htwo
      _ = 1 * 2 ^ (-1074 : Int) := by rw [one_mul, zpow_neg]
      _ ≤ value rank := mul_le_mul hone
        (zpow_le_zpow_right₀ one_le_two (le_magnitude_exponent rank)) (by positivity)
        (by positivity)
  rw [← inUnits_div, le_div_iff₀ (by positivity), ← zpow_natCast,
    ← zpow_add₀ (by norm_num)] at hvalue
  have hsum : (-1084 + (unitPlaces : Nat) : Int) = (16 : Nat) := rfl
  rw [hsum, zpow_natCast] at hvalue
  exact_mod_cast hvalue

/-! ## Search -/

/-- The digits that are nearest to a rank when they stand in front of some zeros. -/
def Reads (rank width d count : Nat) : Prop :=
  nearestRank (d * Nat.pow 10 (width - count)) (Nat.pow 10 unitPlaces) = rank

theorem nearer_cases (step value low : Nat) :
    nearer step value low = low ∨ nearer step value low = low + 1 := by
  unfold nearer
  dsimp only
  split
  · exact Or.inl rfl
  · split
    · exact Or.inr rfl
    · omega

theorem reads_of_candidate? {rank value width count d : Nat}
    (h : candidate? rank value width count = some d) : Reads rank width d count := by
  unfold candidate? at h
  dsimp only at h
  split at h
  · next hlow hhigh =>
    have hnearer := nearer_cases (Nat.pow 10 (width - count)) value
      (value / Nat.pow 10 (width - count))
    rw [Option.some.inj h] at hnearer
    rcases hnearer with rfl | rfl
    · exact beq_iff_eq.1 hlow
    · exact beq_iff_eq.1 hhigh
  · next hlow _ =>
    cases h
    exact beq_iff_eq.1 hlow
  · next _ hhigh =>
    cases h
    exact beq_iff_eq.1 hhigh
  · cases h

/-- The search ends with digits that are read back, no more of them than the value has. -/
theorem search_reads {rank value width : Nat} (hvalue : Reads rank width value width)
    (tries : Nat) {count : Nat} (hcount : count + tries ≤ width + 1) :
    (search rank value width tries count).2 ≤ width ∧
      Reads rank width (search rank value width tries count).1
        (search rank value width tries count).2 := by
  induction tries generalizing count with
  | zero => exact ⟨Nat.le_refl width, hvalue⟩
  | succ tries ih =>
    rw [search]
    split
    · next d hd => exact ⟨by show count ≤ width; omega, reads_of_candidate? hd⟩
    · exact ih (by omega)

/-! ## Zeros at the end -/

theorem exists_dropZeros (fuel n : Nat) : ∃ k, n = dropZeros fuel n * 10 ^ k := by
  induction fuel generalizing n with
  | zero => exact ⟨0, by rw [dropZeros, Nat.pow_zero, Nat.mul_one]⟩
  | succ fuel ih =>
    rw [dropZeros]
    split
    · next h =>
      obtain ⟨k, hk⟩ := ih (n / 10)
      refine ⟨k + 1, ?_⟩
      have hten : n = 10 * (n / 10) := by omega
      calc n = 10 * (n / 10) := hten
        _ = 10 * (dropZeros fuel (n / 10) * 10 ^ k) := by rw [← hk]
        _ = dropZeros fuel (n / 10) * 10 ^ (k + 1) := by rw [Nat.pow_succ]; ring
    · exact ⟨0, by rw [Nat.pow_zero, Nat.mul_one]⟩

theorem digitCount_mul_ten {n : Nat} (hn : 0 < n) : digitCount (n * 10) = digitCount n + 1 := by
  have h := Nat.toDigits_append_toDigits (b := 10) (d := 0) (by decide) hn (by decide)
  rw [digitCount, Nat.mul_comm, ← Nat.add_zero (10 * n), ← h, List.length_append]
  rfl

theorem digitCount_mul_pow {n : Nat} (hn : 0 < n) (k : Nat) :
    digitCount (n * 10 ^ k) = digitCount n + k := by
  induction k with
  | zero => rw [Nat.pow_zero, Nat.mul_one]; rfl
  | succ k ih =>
    rw [Nat.pow_succ, ← Nat.mul_assoc, digitCount_mul_ten (by positivity), ih, Nat.add_assoc]

/-! ## The shortest decimal -/

/-- The value of a decimal, whose exponent is that of its first digit. -/
def Decimal.value (d : Decimal) : ℚ :=
  d.digits * 10 ^ (d.exponent - (digitCount d.digits - 1))

theorem Reads.pos {rank width d count : Nat} (hpos : 0 < rank) (h : Reads rank width d count) :
    0 < d := by
  rcases Nat.eq_zero_or_pos d with rfl | hd
  · rw [Reads, Nat.zero_mul, nearestRank, if_pos rfl] at h
    omega
  · exact hd

theorem Reads.rankOf {rank width d count : Nat} (hcount : count ≤ width)
    (h : Reads rank width d count) :
    rankOf (d * 10 ^ ((width : Int) - count - unitPlaces)) = rank := by
  rw [Reads, Nat.pow_eq, Nat.pow_eq, nearestRank_eq _ (by positivity)] at h
  simp only [Nat.cast_mul, Nat.cast_pow, Nat.cast_ofNat] at h
  rw [zpow_sub₀ (by norm_num), ← Nat.cast_sub hcount, zpow_natCast, zpow_natCast, ← mul_div_assoc]
  exact h

theorem exists_reads_shortest {rank : Nat} (hpos : 0 < rank) (h : rank < infinityRank) :
    ∃ width count zeros, count ≤ width ∧
      Reads rank width ((shortest rank).digits * 10 ^ zeros) count ∧
      (shortest rank).exponent =
        (width : Int) - 1 - unitPlaces +
          (digitCount ((shortest rank).digits * 10 ^ zeros) - count) := by
  have hall :
      Reads rank (digitCount (inUnits rank)) (inUnits rank) (digitCount (inUnits rank)) := by
    rw [Reads, Nat.sub_self, Nat.pow_eq, Nat.pow_zero, Nat.mul_one]
    exact nearestRank_inUnits h
  have hwidth : 17 ≤ digitCount (inUnits rank) := by
    have hunits := le_inUnits hpos
    by_contra hfew
    have hlt := (Nat.length_toDigits_le_iff (k := 16) (by decide) (by decide)).1
      (show digitCount (inUnits rank) ≤ 16 by omega)
    omega
  -- Should all tries fail, the search takes every digit that the units have: `hall`.
  obtain ⟨hcount, hreads⟩ := search_reads hall 17 (show 1 + 17 ≤ _ by omega)
  rw [shortest]
  generalize search rank (inUnits rank) (digitCount (inUnits rank)) 17 1 = found at hcount hreads
  obtain ⟨d, count⟩ := found
  obtain ⟨zeros, hzeros⟩ := exists_dropZeros (digitCount d) d
  exact ⟨digitCount (inUnits rank), count, zeros, hcount, hzeros ▸ hreads, by rw [← hzeros]⟩

theorem shortest_digits_pos {rank : Nat} (hpos : 0 < rank) (h : rank < infinityRank) :
    0 < (shortest rank).digits := by
  obtain ⟨_, _, zeros, -, hreads, -⟩ := exists_reads_shortest hpos h
  exact Nat.pos_of_mul_pos_right (hreads.pos hpos)

theorem rankOf_shortest {rank : Nat} (hpos : 0 < rank) (h : rank < infinityRank) :
    Real64.rankOf (shortest rank).value = rank := by
  have hdigits := shortest_digits_pos hpos h
  obtain ⟨width, count, zeros, hcount, hreads, hexponent⟩ := exists_reads_shortest hpos h
  rw [digitCount_mul_pow hdigits] at hexponent
  have hplaces : (shortest rank).exponent - (digitCount (shortest rank).digits - 1) =
      zeros + ((width : Int) - count - unitPlaces) := by
    rw [hexponent]
    push_cast
    ring
  have hvalue : (shortest rank).value = ((shortest rank).digits * 10 ^ zeros : Nat) *
      10 ^ ((width : Int) - count - unitPlaces) := by
    rw [Decimal.value, hplaces, zpow_add₀ (by norm_num), zpow_natCast]
    push_cast
    ring
  rw [hvalue]
  exact hreads.rankOf hcount

end Stockroom.Number
