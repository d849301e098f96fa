import Stockroom.Json.Reader
import Stockroom.Proofs.Number.Layout

/-!
# Numbers in JSON are read back

The number that a body writes for a finite real is read as that real, and what it writes for an
integer as that integer, whatever value, bracket or end follows it.
-/

namespace Stockroom.Json

open Number Text

/-- What may follow a value: nothing, a comma or the end of an array or an object. -/
def Follows (rest : Points) : Prop := ∀ n ∈ rest.head?, n = 44 ∨ n = 93 ∨ n = 125

/-- No digit comes next. -/
def Stops (rest : Points) : Prop := ∀ n ∈ rest.head?, isDigit n = false

theorem stops_cons {n : Nat} {rest : Points} (hn : isDigit n = false) : Stops (n :: rest) := by
  rintro m ⟨⟩
  exact hn

theorem Follows.stops {rest : Points} (h : Follows rest) : Stops rest := by
  intro n hn
  rcases h n hn with rfl | rfl | rfl <;> rfl

/-! ## Digits -/

theorem isDigit_toNat (c : Char) : isDigit c.toNat = c.isDigit := by
  rw [Bool.eq_iff_iff, Char.isDigit_iff_toNat, isDigit, Bool.and_eq_true, decide_eq_true_eq,
    decide_eq_true_eq]
  rfl

theorem map_digitOf (s : List Char) : (s.map Char.toNat).map digitOf = digitValues s :=
  List.map_map

theorem lt_of_mem_digitValues {s : List Char} (hs : ∀ c ∈ s, c.isDigit = true) :
    ∀ d ∈ digitValues s, d < 10 := by
  intro d hd
  obtain ⟨c, hc, rfl⟩ := List.mem_map.1 hd
  have hrange : 48 ≤ c.toNat ∧ c.toNat ≤ 57 := Char.isDigit_iff_toNat.1 (hs c hc)
  omega

theorem forall_isDigit {s : List Char} (hs : ∀ c ∈ s, c.isDigit = true) :
    ∀ n ∈ s.map Char.toNat, isDigit n = true := by
  intro n hn
  obtain ⟨c, hc, rfl⟩ := List.mem_map.1 hn
  rw [isDigit_toNat, hs c hc]

section

variable {s : List Char} {rest : Points} (hs : ∀ c ∈ s, c.isDigit = true) (hrest : Stops rest)
include hs hrest

theorem takeWhile_digits : (s.map Char.toNat ++ rest).takeWhile isDigit = s.map Char.toNat := by
  rw [List.takeWhile_append_of_pos (forall_isDigit hs)]
  cases rest with
  | nil => rw [List.takeWhile_nil, List.append_nil]
  | cons n rest => rw [List.takeWhile_cons_of_neg (by simp [hrest n rfl]), List.append_nil]

theorem dropWhile_digits : (s.map Char.toNat ++ rest).dropWhile isDigit = rest := by
  rw [List.dropWhile_append_of_pos (forall_isDigit hs)]
  cases rest with
  | nil => rfl
  | cons n rest => rw [List.dropWhile_cons_of_neg (by simp [hrest n rfl])]

theorem splitWhole_digits (hne : s ≠ []) (hhead : s = ['0'] ∨ s.head? ≠ some '0') :
    splitWhole (s.map Char.toNat ++ rest) = some (s.map Char.toNat, rest) := by
  rcases hhead with rfl | hhead
  · rfl
  · have htake := takeWhile_digits hs hrest
    have hdrop := dropWhile_digits hs hrest
    cases s with
    | nil => exact absurd rfl hne
    | cons c s =>
      have hc : isDigit c.toNat = true := isDigit_toNat c ▸ hs c List.mem_cons_self
      have hzero : c.toNat ≠ 48 := fun h => hhead (congrArg some (Char.toNat_inj.1 h))
      rw [List.map_cons, List.cons_append] at htake hdrop ⊢
      unfold splitWhole
      split
      · next heq => exact absurd (List.cons.inj heq).1 hzero
      · next d tail _ heq =>
        obtain ⟨rfl, rfl⟩ := List.cons.inj heq
        rw [if_pos hc, htake, hdrop]
      · next heq => cases heq

theorem splitFraction_digits (hne : s ≠ []) :
    splitFraction (46 :: (s.map Char.toNat ++ rest)) = some (s.map Char.toNat, rest) := by
  have htake := takeWhile_digits hs hrest
  have hdrop := dropWhile_digits hs hrest
  cases s with
  | nil => exact absurd rfl hne
  | cons c s =>
    have hc : isDigit c.toNat = true := isDigit_toNat c ▸ hs c List.mem_cons_self
    rw [List.map_cons, List.cons_append] at htake hdrop ⊢
    rw [splitFraction, if_pos hc, htake, hdrop]

theorem splitExponent_digits (hne : s ≠ []) (negative : Bool) :
    splitExponent (101 :: (if negative then 45 else 43) :: (s.map Char.toNat ++ rest)) =
      some (applySign negative (ofDigits 10 (digitValues s)), rest) := by
  have hsign : exponentSign ((if negative then 45 else 43) :: (s.map Char.toNat ++ rest)) =
      (negative, s.map Char.toNat ++ rest) := by
    cases negative <;> rfl
  rw [splitExponent, if_pos (Or.inl rfl), hsign]
  dsimp only
  rw [takeWhile_digits hs hrest, dropWhile_digits hs hrest, ← map_digitOf]
  cases s with
  | nil => exact absurd rfl hne
  | cons c s => rfl

end

theorem splitFraction_eq_none {rest : Points} (h : rest.head? ≠ some 46) :
    splitFraction rest = none := by
  unfold splitFraction
  split
  · exact absurd rfl h
  · rfl

theorem splitExponent_eq_none {rest : Points} (h : ∀ n ∈ rest.head?, n ≠ 101 ∧ n ≠ 69) :
    splitExponent rest = none := by
  unfold splitExponent
  split
  · next c rest =>
    have hc := h c rfl
    rw [if_neg (not_or.2 hc)]
  · rfl

theorem Follows.splitFraction {rest : Points} (h : Follows rest) : splitFraction rest = none :=
  splitFraction_eq_none fun hpoint => by rcases h 46 hpoint with h | h | h <;> cases h

theorem Follows.splitExponent {rest : Points} (h : Follows rest) : splitExponent rest = none :=
  splitExponent_eq_none fun n hn => by rcases h n hn with rfl | rfl | rfl <;> decide

/-! ## Numbers -/

theorem readNumber_integer {limit : Option Nat} (negative : Bool) {s : List Char} {rest : Points}
    (hs : IsWhole s)
    (hlimit : ∀ m ∈ limit, s.length ≤ m) (hrest : Follows rest) :
    readNumber limit negative (s.map Char.toNat ++ rest) =
      .ok (.integer (applySign negative (ofDigits 10 (digitValues s))), rest) := by
  rw [readNumber, splitWhole_digits hs.digits hrest.stops hs.ne_nil hs.head]
  dsimp only
  rw [hrest.splitFraction]
  dsimp only
  rw [hrest.splitExponent]
  dsimp only
  have hshort : limit.any (· < (s.map Char.toNat).length) = false := by
    cases limit with
    | none => rfl
    | some m => exact decide_eq_false (Nat.not_lt.2 (List.length_map Char.toNat ▸ hlimit m rfl))
  rw [if_neg (by decide), hshort, if_neg Bool.false_ne_true, map_digitOf]

theorem ofDecimal_digits (negative : Bool) {whole fraction : List Char}
    (hwhole : ∀ c ∈ whole, c.isDigit = true) (hfraction : ∀ c ∈ fraction, c.isDigit = true)
    (power : Int) :
    Real64.ofDecimal negative ((whole.map Char.toNat ++ fraction.map Char.toNat).map digitOf)
        (power - (fraction.map Char.toNat).length) =
      .ofRank negative (Real64.rankOf (pointValue whole fraction * 10 ^ power)) := by
  have hdigits : ∀ c ∈ whole ++ fraction, c.isDigit = true :=
    fun c hc => (List.mem_append.1 hc).elim (hwhole c) (hfraction c)
  rw [← List.map_append, map_digitOf, List.length_map, pointValue,
    Real64.ofDecimal_eq negative (lt_of_mem_digitValues hdigits), mul_assoc,
    ← zpow_add₀ (by norm_num), neg_add_eq_sub]

variable (limit : Option Nat)

theorem readNumber_real (negative : Bool) {whole fraction : List Char} {power : Int}
    {s t u rest : Points} (hwhole : ∀ c ∈ whole, c.isDigit = true)
    (hfraction : ∀ c ∈ fraction, c.isDigit = true)
    (hs : splitWhole s = some (whole.map Char.toNat, t))
    (ht : (splitFraction t).getD ([], t) = (fraction.map Char.toNat, u))
    (hu : (splitExponent u).getD (0, u) = (power, rest))
    (hreal : (splitFraction t).isSome = true ∨ (splitExponent u).isSome = true) :
    readNumber limit negative s =
      .ok (.real (.ofRank negative (Real64.rankOf (pointValue whole fraction * 10 ^ power))),
        rest) := by
  -- Either part may be absent, and then it counts as no digits or as a zero exponent. Both absent
  -- would be an integer, which `hreal` excludes.
  rw [← ofDecimal_digits negative hwhole hfraction, readNumber, hs]
  dsimp only
  cases hpoint : splitFraction t with
  | none =>
    rw [hpoint] at ht hreal
    obtain ⟨hnil, rfl⟩ := Prod.mk.inj ht
    dsimp only
    cases hpower : splitExponent t with
    | none =>
      rw [hpower] at hreal
      rcases hreal with h | h <;> cases h
    | some r =>
      rw [hpower] at hu
      obtain rfl : r = (power, rest) := hu
      rw [← hnil]
      rfl
  | some r =>
    rw [hpoint] at ht
    obtain rfl : r = (fraction.map Char.toNat, u) := ht
    dsimp only
    cases hpower : splitExponent u with
    | none =>
      rw [hpower] at hu
      obtain ⟨rfl, rfl⟩ := Prod.mk.inj hu
      rfl
    | some r =>
      rw [hpower] at hu
      obtain rfl : r = (power, rest) := hu
      rfl

theorem readNumber_positional (negative : Bool) {whole fraction : List Char} {rest : Points}
    (hwhole : IsWhole whole) (hne : fraction ≠ []) (hdigits : ∀ c ∈ fraction, c.isDigit = true)
    (hrest : Follows rest) :
    readNumber limit negative ((whole ++ '.' :: fraction).map Char.toNat ++ rest) =
      .ok (.real (.ofRank negative (Real64.rankOf (pointValue whole fraction))), rest) := by
  have hpower : (splitExponent rest).getD (0, rest) = (0, rest) := by
    rw [hrest.splitExponent]
    rfl
  have hstops : Stops (46 :: (fraction.map Char.toNat ++ rest)) := stops_cons rfl
  have htext : (whole ++ '.' :: fraction).map Char.toNat ++ rest =
      whole.map Char.toNat ++ 46 :: (fraction.map Char.toNat ++ rest) := by
    rw [List.map_append, List.append_assoc]
    rfl
  have hpoint := splitFraction_digits hdigits hrest.stops hne
  have hread := readNumber_real limit negative hwhole.digits hdigits
    (splitWhole_digits hwhole.digits hstops hwhole.ne_nil hwhole.head) (by rw [hpoint]; rfl) hpower
    (Or.inl (by rw [hpoint]; rfl))
  rwa [zpow_zero, mul_one, ← htext] at hread

theorem splitFraction_optional {fraction : List Char} {rest : Points}
    (hdigits : ∀ c ∈ fraction, c.isDigit = true) (hstops : Stops rest)
    (hpoint : rest.head? ≠ some 46) :
    (splitFraction ((optionalFraction fraction).map Char.toNat ++ rest)).getD
        ([], (optionalFraction fraction).map Char.toNat ++ rest) =
      (fraction.map Char.toNat, rest) := by
  cases fraction with
  | nil =>
    show (splitFraction rest).getD ([], rest) = _
    rw [splitFraction_eq_none hpoint]
    rfl
  | cons c fraction =>
    have hsplit := splitFraction_digits hdigits hstops (List.cons_ne_nil c fraction)
    show (splitFraction (46 :: ((c :: fraction).map Char.toNat ++ rest))).getD _ = _
    rw [hsplit]
    rfl

theorem stops_optional (fraction : List Char) {rest : Points} (hstops : Stops rest) :
    Stops ((optionalFraction fraction).map Char.toNat ++ rest) := by
  unfold optionalFraction
  split
  · exact hstops
  · exact stops_cons rfl

theorem readNumber_scientific (negative : Bool) {whole fraction power : List Char} {rest : Points}
    (hwhole : IsWhole whole) (hdigits : ∀ c ∈ fraction, c.isDigit = true)
    (hpower : ∀ c ∈ power, c.isDigit = true) (hne : power ≠ []) (below : Bool)
    (hrest : Follows rest) :
    readNumber limit negative ((whole ++ optionalFraction fraction ++
        'e' :: (if below then '-' else '+') :: power).map Char.toNat ++ rest) =
      .ok (.real (.ofRank negative (Real64.rankOf (pointValue whole fraction *
        10 ^ applySign below (ofDigits 10 (digitValues power))))), rest) := by
  have hexponent := splitExponent_digits hpower hrest.stops hne below
  -- Of the exponent the other parts need only that neither a digit nor a point comes first.
  generalize htail : 101 :: (if below then 45 else 43) :: (power.map Char.toNat ++ rest) = tail
    at hexponent
  have hstops : Stops tail := htail ▸ stops_cons rfl
  have hpoint : tail.head? ≠ some 46 := by
    rw [← htail]
    exact fun h => by cases h
  have htext : (whole ++ optionalFraction fraction ++
        'e' :: (if below then '-' else '+') :: power).map Char.toNat ++ rest =
      whole.map Char.toNat ++ ((optionalFraction fraction).map Char.toNat ++ tail) := by
    rw [← htail, List.map_append, List.map_append, List.append_assoc, List.append_assoc]
    cases below <;> rfl
  have hsplit := splitWhole_digits hwhole.digits (stops_optional fraction hstops) hwhole.ne_nil
    hwhole.head
  rw [← htext] at hsplit
  exact readNumber_real limit negative hwhole.digits hdigits hsplit
    (splitFraction_optional hdigits hstops hpoint) (by rw [hexponent]; rfl)
    (Or.inr (by rw [hexponent]; rfl))

/-! ## Reals -/

theorem ofRank_rank (negative : Bool) (rank : Fin (infinityRank + 1)) :
    Real64.ofRank negative rank.val = .signed negative rank := by
  have hmin : min rank.val infinityRank = rank.val := Nat.min_eq_left (Nat.le_of_lt_succ rank.isLt)
  rw [Real64.ofRank]
  congr 1
  exact Fin.ext hmin

/-- The magnitude of a finite real is read back in every layout. -/
theorem readNumber_magnitude (layout : Layout) (negative : Bool) {rank : Nat}
    (h : rank < infinityRank) {rest : Points} (hrest : Follows rest) :
    readNumber limit negative ((layout.magnitude rank).map Char.toNat ++ rest) =
      .ok (.real (.ofRank negative rank), rest) := by
  unfold Layout.magnitude
  split
  · next hzero =>
    have hvalue : pointValue ['0'] ['0'] = 0 := by
      rw [pointValue, show ofDigits 10 (digitValues (['0'] ++ ['0'])) = 0 from rfl, Nat.cast_zero,
        zero_mul]
    have hread := readNumber_positional limit negative isWhole_zero isWhole_zero.ne_nil
      isWhole_zero.digits hrest
    rwa [hvalue, Real64.rankOf, if_pos rfl, ← hzero] at hread
  · next hpos =>
    have hrank := rankOf_shortest (Nat.pos_of_ne_zero hpos) h
    have hdigits := shortest_digits_pos (Nat.pos_of_ne_zero hpos) h
    -- From here on any digits will do whose value has the rank.
    generalize shortest rank = d at hrank hdigits
    obtain ⟨n, e⟩ := d
    dsimp only at hdigits ⊢
    split
    · obtain ⟨whole, fraction, htext, hwhole, hne, hfraction, hvalue⟩ :=
        isPositional_positional hdigits e
      rw [htext, readNumber_positional limit negative hwhole hne hfraction hrest, hvalue, hrank]
    · obtain ⟨whole, fraction, htext, hwhole, hfraction, hvalue⟩ :=
        exists_scientific hdigits layout.exponentDigits e
      have hread := readNumber_scientific limit negative hwhole hfraction
        (fun c hc => isDigit_of_mem_padded hc) (padded_ne_nil layout.exponentDigits e.natAbs)
        (decide (e < 0)) hrest
      rw [ofDigits_padded, applySign_natAbs, hvalue, hrank] at hread
      rw [htext]
      simpa only [decide_eq_true_eq] using hread

end Stockroom.Json
