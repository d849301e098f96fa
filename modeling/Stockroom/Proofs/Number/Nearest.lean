import Mathlib.Algebra.Order.Field.Power
import Mathlib.Algebra.Order.Floor.Semifield
import Mathlib.Data.Int.Log
import Mathlib.Data.Rat.Floor
import Mathlib.Tactic.FieldSimp
import Mathlib.Tactic.Linarith
import Mathlib.Tactic.Positivity
import Stockroom.Number.DecimalText

/-!
# The nearest real

Which rank is nearest to a quotient depends on nothing but its value: `rankOf` says so of rational
numbers. A value that a rank has is nearest to that rank, a value below half of the least one is
nearest to zero, and one beyond all of them to infinity. So the real of a decimal is the nearest one
also where its digits are not multiplied out.
-/

namespace Stockroom.Number

/-! ## Digits -/

theorem ofDigits_append (base : Nat) (ds rest : List Nat) :
    ofDigits base (ds ++ rest) = ofDigits base ds * base ^ rest.length + ofDigits base rest := by
  -- `ofDigits` takes the last digit last, so the induction is on the digits from the end.
  rw [← List.reverse_reverse rest]
  generalize rest.reverse = rs
  induction rs with
  | nil => simp [ofDigits]
  | cons r rs ih =>
    rw [List.reverse_cons, ← List.append_assoc, ofDigits_append_singleton, ih,
      ofDigits_append_singleton, List.length_append, List.length_singleton, Nat.pow_succ]
    ring

theorem ofDigits_cons (base d : Nat) (ds : List Nat) :
    ofDigits base (d :: ds) = d * base ^ ds.length + ofDigits base ds := by
  have h := ofDigits_append base [d] ds
  rwa [List.singleton_append, show ofDigits base [d] = d by simp [ofDigits]] at h

theorem ofDigits_dropWhile (base : Nat) (ds : List Nat) :
    ofDigits base (ds.dropWhile (· == 0)) = ofDigits base ds := by
  induction ds with
  | nil => rfl
  | cons d ds ih =>
    rw [List.dropWhile_cons]
    split
    · next hd =>
      obtain rfl : d = 0 := by simpa using hd
      rw [ih, ofDigits_cons, Nat.zero_mul, Nat.zero_add]
    · rfl

theorem pow_le_ofDigits {base d : Nat} (hd : d ≠ 0) (ds : List Nat) :
    base ^ ds.length ≤ ofDigits base (d :: ds) := by
  rw [ofDigits_cons]
  exact Nat.le_add_right_of_le (Nat.le_mul_of_pos_left _ (Nat.pos_of_ne_zero hd))

namespace Real64

/-! ## Rounding -/

/-- The nearest natural number, of two equally near ones the even one. -/
def halfEven (q : ℚ) : Nat :=
  let n := ⌊q⌋₊
  if q - n < 1 / 2 then n else if 1 / 2 < q - n then n + 1 else n + n % 2

/-- The exponent of the last binary digit that a real keeps of a value. -/
def lastExponent (q : ℚ) : Int := max (Int.log 2 q - 52) (-1074)

/-- The rank nearest to a value that is not negative. -/
def rankOf (q : ℚ) : Nat :=
  if q = 0 then 0
  else
    min ((lastExponent q + 1074).toNat * binade + halfEven (q / 2 ^ lastExponent q)) infinityRank

theorem roundHalfEven_eq (num : Nat) {den : Nat} (hden : 0 < den) :
    roundHalfEven num den = halfEven (num / den) := by
  have hfloor : ⌊(num : ℚ) / den⌋₊ = num / den := Nat.floor_div_eq_div num den
  have hpos : (0 : ℚ) < den := Nat.cast_pos.2 hden
  have hsplit : (num : ℚ) / den - (num / den : Nat) = (num % den : Nat) / den := by
    have hdiv : (num : ℚ) = den * (num / den : Nat) + (num % den : Nat) := by
      exact_mod_cast (Nat.div_add_mod num den).symm
    field_simp
    linarith
  have hbelow : (num : ℚ) / den - (num / den : Nat) < 1 / 2 ↔ 2 * (num % den) < den := by
    rw [hsplit, div_lt_div_iff₀ hpos two_pos, ← Nat.cast_lt (α := ℚ)]
    push_cast
    constructor <;> intro h <;> linarith
  have habove : 1 / 2 < (num : ℚ) / den - (num / den : Nat) ↔ den < 2 * (num % den) := by
    rw [hsplit, div_lt_div_iff₀ two_pos hpos, ← Nat.cast_lt (α := ℚ)]
    push_cast
    constructor <;> intro h <;> linarith
  simp only [roundHalfEven, halfEven, hfloor, hbelow, habove]

theorem halfEven_natCast (n : Nat) : halfEven n = n := by
  rw [halfEven, Nat.floor_natCast, sub_self, if_pos (by norm_num)]

theorem floor_le_halfEven (q : ℚ) : ⌊q⌋₊ ≤ halfEven q := by
  unfold halfEven
  dsimp only
  split
  · exact Nat.le_refl _
  · split <;> omega

theorem halfEven_eq_zero {q : ℚ} (h : q < 1 / 2) : halfEven q = 0 := by
  have hfloor : ⌊q⌋₊ = 0 := Nat.floor_eq_zero.2 (by linarith)
  rw [halfEven, hfloor, Nat.cast_zero, sub_zero, if_pos h]

/-! ## The exponent -/

theorem shifted_div (num den : Nat) (e : Int) :
    ((shifted num den e).1 : ℚ) / (shifted num den e).2 = num / den / 2 ^ e := by
  unfold shifted
  split
  · next he =>
    obtain ⟨n, rfl⟩ := Int.eq_ofNat_of_zero_le he
    rw [Int.toNat_natCast, Nat.pow_eq, zpow_natCast]
    push_cast
    rw [div_div]
  · next he =>
    obtain ⟨n, hn⟩ := Int.eq_ofNat_of_zero_le (show 0 ≤ -e by omega)
    obtain rfl : e = -n := by omega
    rw [Int.neg_neg, Int.toNat_natCast, Nat.pow_eq, zpow_neg, zpow_natCast, div_inv_eq_mul]
    push_cast
    rw [div_mul_eq_mul_div]

theorem shifted_den_pos {num den : Nat} {e : Int} (hden : 0 < den) : 0 < (shifted num den e).2 := by
  unfold shifted
  split
  · exact Nat.mul_pos hden (Nat.pow_pos two_pos)
  · exact hden

theorem shifted_le_iff {num den : Nat} {e : Int} (hden : 0 < den) :
    (shifted num den e).2 ≤ (shifted num den e).1 ↔ (2 : ℚ) ^ e ≤ num / den := by
  have hpos : (0 : ℚ) < (shifted num den e).2 := Nat.cast_pos.2 (shifted_den_pos hden)
  have htwo : (0 : ℚ) < 2 ^ e := by positivity
  rw [← Nat.cast_le (α := ℚ), ← one_le_div hpos, shifted_div, one_le_div htwo]

theorem log_div_bounds {num den : Nat} (hnum : 0 < num) (hden : 0 < den) :
    (num.log2 : Int) - den.log2 - 1 ≤ Int.log 2 (num / den : ℚ) ∧
      Int.log 2 (num / den : ℚ) ≤ num.log2 - den.log2 := by
  have hlow (n : Nat) (hn : 0 < n) : (2 : ℚ) ^ n.log2 ≤ n := by
    exact_mod_cast Nat.log2_self_le (Nat.pos_iff_ne_zero.1 hn)
  have hhigh (n : Nat) : (n : ℚ) < 2 ^ (n.log2 + 1) := by exact_mod_cast Nat.lt_log2_self
  have hdenq : (0 : ℚ) < den := Nat.cast_pos.2 hden
  have hq : (0 : ℚ) < num / den := by positivity
  constructor
  · rw [← Int.zpow_le_iff_le_log (by norm_num) hq]
    push_cast
    rw [show (num.log2 : Int) - den.log2 - 1 = num.log2 - (den.log2 + 1 : Nat) by push_cast; ring,
      zpow_sub₀ two_ne_zero, zpow_natCast, zpow_natCast]
    exact div_le_div₀ (Nat.cast_nonneg _) (hlow num hnum) hdenq (hhigh den).le
  · rw [← Int.lt_add_one_iff, ← Int.lt_zpow_iff_log_lt (by norm_num) hq]
    push_cast
    rw [show (num.log2 : Int) - den.log2 + 1 = (num.log2 + 1 : Nat) - den.log2 by push_cast; ring,
      zpow_sub₀ two_ne_zero, zpow_natCast, zpow_natCast]
    exact div_lt_div₀ (hhigh num) (hlow den hden) (by positivity) (by positivity)

theorem exponentOf_eq {num den : Nat} (hnum : 0 < num) (hden : 0 < den) :
    exponentOf num den = lastExponent (num / den) := by
  have hq : (0 : ℚ) < num / den := by positivity
  have hguess := log_div_bounds hnum hden
  have hfits :
      (shifted num den (num.log2 - den.log2)).2 ≤ (shifted num den (num.log2 - den.log2)).1 ↔
        (num.log2 : Int) - den.log2 ≤ Int.log 2 (num / den : ℚ) := by
    rw [shifted_le_iff hden, ← Int.zpow_le_iff_le_log (by norm_num) hq, Nat.cast_ofNat]
  -- The difference of the lengths is the logarithm or one too many, and the comparison tells which.
  unfold exponentOf lastExponent
  dsimp only
  congr 1
  split <;> omega

/-- The nearest rank is that of the value, however it is written as a quotient. -/
theorem nearestRank_eq (num : Nat) {den : Nat} (hden : 0 < den) :
    nearestRank num den = rankOf (num / den) := by
  by_cases hnum : num = 0
  · rw [nearestRank, if_pos hnum, rankOf, if_pos (by rw [hnum, Nat.cast_zero, zero_div])]
  · have hq : (num : ℚ) / den ≠ 0 :=
      div_ne_zero (Nat.cast_ne_zero.2 hnum) (Nat.cast_ne_zero.2 hden.ne')
    rw [nearestRank, if_neg hnum, rankOf, if_neg hq]
    dsimp only
    rw [exponentOf_eq (Nat.pos_of_ne_zero hnum) hden, roundHalfEven_eq _ (shifted_den_pos hden),
      shifted_div]

/-! ## Values of ranks -/

/-- The value of a finite rank. -/
def value (rank : Nat) : ℚ := (magnitude rank).1 * 2 ^ (magnitude rank).2

theorem lastExponent_of_bounds {q : ℚ} {e : Int} (hlow : 2 ^ (e + 52) ≤ q)
    (hhigh : q < 2 ^ (e + 53)) (he : -1074 ≤ e) : lastExponent q = e := by
  have hq : 0 < q := lt_of_lt_of_le (by positivity) hlow
  have h1 : e + 52 ≤ Int.log 2 q := by
    rw [← Int.zpow_le_iff_le_log (by norm_num) hq]
    exact_mod_cast hlow
  have h2 : Int.log 2 q < e + 53 := by
    rw [← Int.lt_zpow_iff_log_lt (by norm_num) hq]
    exact_mod_cast hhigh
  unfold lastExponent
  omega

theorem lastExponent_of_lt {q : ℚ} (hq : 0 < q) (h : q < 2 ^ (-1021 : Int)) :
    lastExponent q = -1074 := by
  have hlog : Int.log 2 q < -1021 := by
    rw [← Int.lt_zpow_iff_log_lt (by norm_num) hq]
    exact_mod_cast h
  unfold lastExponent
  omega

theorem binade_cast : (binade : ℚ) = 2 ^ (52 : Int) := by
  rw [binade, Nat.pow_eq]
  norm_num

theorem binade_pos : 0 < binade := by decide

theorem rankOf_of_exact {q : ℚ} {e : Int} {m : Nat} (hm : 0 < m) (he : lastExponent q = e)
    (hq : q = m * 2 ^ e) : rankOf q = min ((e + 1074).toNat * binade + m) infinityRank := by
  have hpow : (2 : ℚ) ^ e ≠ 0 := by positivity
  have hne : q ≠ 0 := hq ▸ mul_ne_zero (Nat.cast_ne_zero.2 hm.ne') hpow
  have hunits : q / 2 ^ e = m := by rw [hq, mul_div_cancel_right₀ _ hpow]
  rw [rankOf, if_neg hne, he, hunits, halfEven_natCast]

theorem rankOf_value_of_lt {rank : Nat} (hpos : 0 < rank) (hsmall : rank < binade) :
    rankOf (value rank) = min rank infinityRank := by
  have hvalue : value rank = rank * 2 ^ (-1074 : Int) := by rw [value, magnitude, if_pos hsmall]
  have hlt : value rank < 2 ^ (-1021 : Int) := by
    have hrank : (rank : ℚ) < 2 ^ (52 : Int) := binade_cast ▸ Nat.cast_lt.2 hsmall
    calc value rank = rank * 2 ^ (-1074 : Int) := hvalue
      _ < 2 ^ (52 : Int) * 2 ^ (-1074 : Int) := by gcongr
      _ = 2 ^ (-1022 : Int) := by rw [← zpow_add₀ two_ne_zero]; norm_num
      _ ≤ 2 ^ (-1021 : Int) := zpow_le_zpow_right₀ one_le_two (by norm_num)
  have hpositive : 0 < value rank := by
    rw [hvalue]
    positivity
  rw [rankOf_of_exact hpos (lastExponent_of_lt hpositive hlt) hvalue,
    show (-1074 + 1074 : Int).toNat = 0 from rfl, Nat.zero_mul, Nat.zero_add]

theorem lastExponent_mul {m : Nat} (hlow : binade ≤ m) (hhigh : m < 2 * binade) {e : Int}
    (he : -1074 ≤ e) : lastExponent (m * 2 ^ e) = e := by
  have hdouble : (2 : ℚ) ^ (53 : Int) = (2 * binade : Nat) := by
    rw [Nat.cast_mul, binade_cast]
    norm_num
  refine lastExponent_of_bounds ?_ ?_ he
  · rw [zpow_add₀ two_ne_zero, mul_comm, ← binade_cast]
    gcongr
  · rw [zpow_add₀ two_ne_zero, mul_comm (2 ^ _), hdouble]
    gcongr

theorem rankOf_value_of_le {rank : Nat} (hlarge : binade ≤ rank) :
    rankOf (value rank) = min rank infinityRank := by
  have hvalue : value rank =
      (binade + rank % binade : Nat) * 2 ^ ((rank / binade : Nat) - 1075 : Int) := by
    rw [value, magnitude, if_neg (Nat.not_lt.2 hlarge)]
  have hquotient : 1 ≤ rank / binade := (Nat.one_le_div_iff binade_pos).2 hlarge
  have hrest : rank % binade < binade := Nat.mod_lt rank binade_pos
  have hexponent : lastExponent (value rank) = (rank / binade : Nat) - 1075 := by
    rw [hvalue]
    exact lastExponent_mul (by omega) (by omega) (by omega)
  have hsum : ((rank / binade : Nat) - 1075 + 1074 : Int).toNat * binade +
      (binade + rank % binade) = rank := by
    have hback := Nat.div_add_mod rank binade
    obtain ⟨k, hk⟩ := Nat.exists_eq_add_of_le hquotient
    have hbinades : ((1 + k : Nat) - 1075 + 1074 : Int).toNat = k := by omega
    rw [hk] at hback ⊢
    rw [hbinades]
    linarith
  rw [rankOf_of_exact (by omega) hexponent hvalue, hsum]

theorem rankOf_value {rank : Nat} (h : rank < infinityRank) : rankOf (value rank) = rank := by
  rcases Nat.eq_zero_or_pos rank with rfl | hpos
  · rw [value, magnitude, if_pos binade_pos, Nat.cast_zero, zero_mul, rankOf, if_pos rfl]
  rcases Nat.lt_or_ge rank binade with hsmall | hlarge
  · rw [rankOf_value_of_lt hpos hsmall, Nat.min_eq_left h.le]
  · rw [rankOf_value_of_le hlarge, Nat.min_eq_left h.le]

theorem rankOf_eq_zero {q : ℚ} (hq : 0 ≤ q) (h : q < 2 ^ (-1075 : Int)) : rankOf q = 0 := by
  rcases hq.eq_or_lt with rfl | hpos
  · exact if_pos rfl
  have hlt : q < 2 ^ (-1021 : Int) := h.trans_le (zpow_le_zpow_right₀ one_le_two (by norm_num))
  have hhalf : q / 2 ^ (-1074 : Int) < 1 / 2 := by
    rw [div_lt_iff₀ (by positivity)]
    calc q < 2 ^ (-1075 : Int) := h
      _ = 1 / 2 * 2 ^ (-1074 : Int) := by
        rw [show (-1075 : Int) = -1 + -1074 by norm_num, zpow_add₀ two_ne_zero]
        norm_num
  rw [rankOf, if_neg hpos.ne', lastExponent_of_lt hpos hlt, halfEven_eq_zero hhalf]
  rfl

theorem rankOf_eq_infinityRank {q : ℚ} (h : 2 ^ (1024 : Int) ≤ q) : rankOf q = infinityRank := by
  have hpos : 0 < q := lt_of_lt_of_le (by positivity) h
  have hlog : 1024 ≤ Int.log 2 q := by
    rw [← Int.zpow_le_iff_le_log (by norm_num) hpos]
    exact_mod_cast h
  have hexponent : lastExponent q = Int.log 2 q - 52 := by
    unfold lastExponent
    omega
  have hunits : binade ≤ halfEven (q / 2 ^ lastExponent q) := by
    refine Nat.le_trans ?_ (floor_le_halfEven _)
    rw [Nat.le_floor_iff (by positivity), le_div_iff₀ (by positivity), binade_cast, hexponent,
      ← zpow_add₀ two_ne_zero, add_sub_cancel]
    exact_mod_cast Int.zpow_log_le_self (b := 2) (by norm_num) hpos
  have hbinades : 2046 * binade ≤ (lastExponent q + 1074).toNat * binade :=
    Nat.mul_le_mul_right _ (by omega)
  rw [rankOf, if_neg hpos.ne', min_eq_right]
  rw [infinityRank]
  omega

/-! ## Decimals -/

theorem ofRatio_eq (negative : Bool) (num : Nat) {den : Nat} (hden : 0 < den) :
    ofRatio negative num den = ofRank negative (rankOf (num / den)) := by
  rw [ofRatio, nearestRank_eq num hden]

theorem ofRatio_of_nonneg (negative : Bool) (n : Nat) {e : Int} (he : 0 ≤ e) :
    ofRatio negative (n * Nat.pow 10 e.toNat) 1 = ofRank negative (rankOf (n * 10 ^ e)) := by
  obtain ⟨k, rfl⟩ := Int.eq_ofNat_of_zero_le he
  rw [ofRatio_eq _ _ Nat.one_pos, Int.toNat_natCast, Nat.pow_eq, zpow_natCast]
  push_cast
  rw [div_one]

theorem ofRatio_of_neg (negative : Bool) (n : Nat) {e : Int} (he : e < 0) :
    ofRatio negative n (Nat.pow 10 (-e).toNat) = ofRank negative (rankOf (n * 10 ^ e)) := by
  obtain ⟨k, hk⟩ := Int.eq_ofNat_of_zero_le (show 0 ≤ -e by omega)
  obtain rfl : e = -k := by omega
  rw [Int.neg_neg, Int.toNat_natCast, Nat.pow_eq, ofRatio_eq _ _ (Nat.pow_pos (by decide)),
    zpow_neg, zpow_natCast]
  push_cast
  rw [div_eq_mul_inv]

theorem two_zpow_le_ten_zpow : (2 : ℚ) ^ (1200 : Int) ≤ 10 ^ (400 : Int) := by
  rw [show (1200 : Int) = 3 * 400 by norm_num, zpow_mul]
  exact zpow_le_zpow_left₀ (by norm_num) (by norm_num) (by norm_num)

theorem le_ten_zpow {e : Int} (he : 400 ≤ e) : (2 : ℚ) ^ (1024 : Int) ≤ 10 ^ e :=
  calc (2 : ℚ) ^ (1024 : Int) ≤ 2 ^ (1200 : Int) := zpow_le_zpow_right₀ one_le_two (by norm_num)
    _ ≤ 10 ^ (400 : Int) := two_zpow_le_ten_zpow
    _ ≤ 10 ^ e := zpow_le_zpow_right₀ (by norm_num) he

theorem ten_zpow_lt {e : Int} (he : e ≤ -400) : (10 : ℚ) ^ e < 2 ^ (-1075 : Int) :=
  calc (10 : ℚ) ^ e ≤ 10 ^ (-400 : Int) := zpow_le_zpow_right₀ (by norm_num) he
    _ = (10 ^ (400 : Int))⁻¹ := zpow_neg _ _
    _ ≤ (2 ^ (1200 : Int))⁻¹ := inv_anti₀ (by positivity) two_zpow_le_ten_zpow
    _ = 2 ^ (-1200 : Int) := (zpow_neg _ _).symm
    _ < 2 ^ (-1075 : Int) := zpow_lt_zpow_right₀ one_lt_two (by norm_num)

theorem ofDigits_bounds {d : Nat} {rest : List Nat} (hd : d ≠ 0) (hds : ∀ x ∈ d :: rest, x < 10) :
    (10 : ℚ) ^ (rest.length : Int) ≤ ofDigits 10 (d :: rest) ∧
      (ofDigits 10 (d :: rest) : ℚ) < 10 ^ (rest.length + 1 : Int) := by
  constructor
  · rw [zpow_natCast]
    exact_mod_cast pow_le_ofDigits hd rest
  · have hlt := ofDigits_lt (d :: rest) hds
    rw [Nat.pow_eq, List.length_cons] at hlt
    exact_mod_cast hlt

theorem rankOf_tiny {d : Nat} {rest : List Nat} (hd : d ≠ 0) (hds : ∀ x ∈ d :: rest, x < 10)
    {e : Int} (he : (rest.length + 1 : Int) + e ≤ -400) :
    rankOf (ofDigits 10 (d :: rest) * 10 ^ e) = 0 := by
  have hhigh := (ofDigits_bounds hd hds).2
  refine rankOf_eq_zero (by positivity) ?_
  calc (ofDigits 10 (d :: rest) : ℚ) * 10 ^ e
      < 10 ^ (rest.length + 1 : Int) * 10 ^ e := by gcongr
    _ = 10 ^ (rest.length + 1 + e : Int) := (zpow_add₀ (by norm_num) _ _).symm
    _ < 2 ^ (-1075 : Int) := ten_zpow_lt he

theorem rankOf_huge {d : Nat} {rest : List Nat} (hd : d ≠ 0) (hds : ∀ x ∈ d :: rest, x < 10)
    {e : Int} (he : 400 ≤ (rest.length : Int) + e) :
    rankOf (ofDigits 10 (d :: rest) * 10 ^ e) = infinityRank := by
  have hlow := (ofDigits_bounds hd hds).1
  refine rankOf_eq_infinityRank ?_
  calc (2 : ℚ) ^ (1024 : Int) ≤ 10 ^ (rest.length + e : Int) := le_ten_zpow he
    _ = 10 ^ (rest.length : Int) * 10 ^ e := zpow_add₀ (by norm_num) _ _
    _ ≤ ofDigits 10 (d :: rest) * 10 ^ e := by gcongr

theorem ofDecimal_eq (negative : Bool) {ds : List Nat} (hds : ∀ d ∈ ds, d < 10) (e : Int) :
    ofDecimal negative ds e = ofRank negative (rankOf (ofDigits 10 ds * 10 ^ e)) := by
  rw [ofDecimal, ← ofDigits_dropWhile 10 ds]
  have hrest : ∀ d ∈ ds.dropWhile (· == 0), d < 10 :=
    fun d hd => hds d ((List.dropWhile_sublist _).subset hd)
  have hfirst : ∀ d rest, ds.dropWhile (· == 0) = d :: rest → d ≠ 0 := by
    intro d rest heq
    have hhead := List.head_dropWhile_not (· == 0) (l := ds) (by
      rw [heq]
      exact List.cons_ne_nil _ _)
    simpa [heq] using hhead
  generalize ds.dropWhile (· == 0) = digits at hrest hfirst
  cases digits with
  | nil =>
    rw [ofDigits, List.foldl_nil, Nat.cast_zero, zero_mul, rankOf, if_pos rfl]
    rfl
  | cons d rest =>
    have hd := hfirst d rest rfl
    -- Far out of range nothing is multiplied out, and the digits that there are do not matter.
    simp only [List.isEmpty_cons, Bool.false_eq_true, false_or, List.length_cons]
    split
    · next hscale =>
      rw [rankOf_tiny hd hrest (by omega)]
      rfl
    · split
      · next hscale =>
        rw [rankOf_huge hd hrest (by omega)]
        rfl
      · split
        · next he => exact ofRatio_of_nonneg _ _ he
        · next he => exact ofRatio_of_neg _ _ (Int.not_le.1 he)

end Real64

end Stockroom.Number
