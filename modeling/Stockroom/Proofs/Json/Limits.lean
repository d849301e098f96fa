import Mathlib.Data.List.Basic
import Mathlib.Data.List.Infix
import Stockroom.Proofs.Json.RoundTrip

/-!
# Texts within the limits of the reader

The reader gives up on a text only for too deep a nesting or too long an integer. A text with few
opening brackets and few digits is within both limits: it is read, or it is no JSON. What carries
the proof is that every reader leaves an end of its text, in which there is no more of either.
-/

namespace Stockroom.Json

open Number Text

def isOpening (n : Nat) : Bool := n == 91 || n == 123

/-- A text with at most `depth` opening brackets, and no more digits than an integer may have. -/
structure Within (depth : Nat) (s : Points) : Prop where
  brackets : s.countP isOpening ≤ depth
  digits : s.countP isDigit ≤ digitLimit

instance (depth : Nat) (s : Points) : Decidable (Within depth s) :=
  decidable_of_iff (s.countP isOpening ≤ depth ∧ s.countP isDigit ≤ digitLimit)
    ⟨fun h => ⟨h.1, h.2⟩, fun h => ⟨h.1, h.2⟩⟩

theorem Within.suffix {depth : Nat} {s t : Points} (hs : Within depth s) (h : t <:+ s) :
    Within depth t :=
  ⟨(h.sublist.countP_le).trans hs.brackets, (h.sublist.countP_le).trans hs.digits⟩

theorem Within.tail {depth n : Nat} {s : Points} (hs : Within (depth + 1) (n :: s))
    (hn : isOpening n = true) : Within depth s := by
  have hbrackets := hs.brackets
  rw [List.countP_cons_of_pos hn] at hbrackets
  exact ⟨by omega, (hs.suffix (List.suffix_cons n s)).digits⟩

theorem not_within_zero {n : Nat} {s : Points} (hn : isOpening n = true) :
    ¬ Within 0 (n :: s) := by
  intro hs
  have hbrackets := hs.brackets
  rw [List.countP_cons_of_pos hn] at hbrackets
  omega

/-! ## Readers -/

/-- What is left behind what was read is an end of the text. A text within the limits meets none. -/
def IsFair {α : Type} (depth : Nat) (s : Points) : Reads α → Prop
  | .ok r => r.2 <:+ s
  | .error fault => Within depth s → fault = .malformed

variable {α β : Type} {depth : Nat} {s t : Points}

theorem isFair_malformed : IsFair (α := α) depth s (.error .malformed) := fun _ => rfl

theorem IsFair.of_suffix {inner : Nat} {e : Reads α} (he : IsFair inner t e) (h : t <:+ s)
    (hwithin : Within depth s → Within inner t) : IsFair depth s e := by
  cases e with
  | ok r => exact List.IsSuffix.trans he h
  | error fault => exact fun hs => he (hwithin hs)

theorem IsFair.map {e : Reads α} (he : IsFair depth s e) (f : α → β) :
    IsFair depth s (e.map fun r => (f r.1, r.2)) := by
  cases e with
  | ok r => exact he
  | error fault => exact he

theorem IsFair.behind {e : Reads α} (he : IsFair depth t e) (h : t <:+ s) : IsFair depth s e :=
  he.of_suffix h fun hs => hs.suffix h

theorem skipWhite_suffix (s : Points) : skipWhite s <:+ s := List.dropWhile_suffix isWhite

theorem suffix_of_skipWhite {n : Nat} (h : skipWhite s = n :: t) : t <:+ s :=
  (List.suffix_cons n t).trans (h ▸ skipWhite_suffix s)

/-! ## Strings and literals -/

theorem isFair_readPieces (depth : Nat) (s : Points) : IsFair depth s (readPieces s) := by
  fun_induction readPieces s with
  | case1 => exact isFair_malformed
  | case2 rest => exact List.suffix_cons 34 rest
  | case3 => exact isFair_malformed
  | case4 a b c d rest u _ ih =>
    exact (ih.map (.escaped u :: ·)).behind
      (List.drop_suffix 6 (92 :: 117 :: a :: b :: c :: d :: rest))
  | case5 => exact isFair_malformed
  | case6 c rest _ n _ ih =>
    exact (ih.map (.plain n :: ·)).behind (List.drop_suffix 2 (92 :: c :: rest))
  | case7 => exact isFair_malformed
  | case8 c rest _ _ _ _ ih => exact (ih.map (.plain c :: ·)).behind (List.suffix_cons c rest)

theorem isFair_readString (depth : Nat) (s : Points) : IsFair depth s (readString s) :=
  (isFair_readPieces depth s).map joinPieces

theorem suffix_of_readLiteral? {r : Json × Points} (h : readLiteral? s = some r) : r.2 <:+ s := by
  obtain ⟨l, -, hl⟩ := List.exists_of_findSome?_eq_some h
  obtain ⟨t, ht, rfl⟩ := Option.map_eq_some_iff.1 hl
  unfold dropWord? at ht
  split at ht
  · cases ht
    exact List.drop_suffix _ s
  · cases ht

/-! ## Numbers -/

theorem length_takeWhile_isDigit (s : Points) :
    (s.takeWhile isDigit).length ≤ s.countP isDigit := by
  have hall : (s.takeWhile isDigit).countP isDigit = (s.takeWhile isDigit).length :=
    List.countP_eq_length.2 (List.all_eq_true.1 List.all_takeWhile)
  rw [← hall]
  exact (List.takeWhile_sublist isDigit).countP_le

theorem splitWhole_spec {whole : Points} (h : splitWhole s = some (whole, t)) :
    t <:+ s ∧ whole.length ≤ s.countP isDigit := by
  unfold splitWhole at h
  split at h
  · next rest =>
    cases h
    refine ⟨List.suffix_cons 48 t, ?_⟩
    rw [List.countP_cons_of_pos rfl]
    simp
  · next c rest _ =>
    split at h
    · cases h
      exact ⟨List.dropWhile_suffix isDigit, length_takeWhile_isDigit (c :: rest)⟩
    · cases h
  · cases h

theorem suffix_of_splitFraction {ds : Points} (h : splitFraction s = some (ds, t)) : t <:+ s := by
  unfold splitFraction at h
  split at h
  · next d rest =>
    split at h
    · cases h
      exact (List.dropWhile_suffix isDigit).trans (List.suffix_cons 46 (d :: rest))
    · cases h
  · cases h

theorem exponentSign_suffix (s : Points) : (exponentSign s).2 <:+ s := by
  unfold exponentSign
  split
  · exact List.suffix_cons _ _
  · exact List.suffix_cons _ _
  · exact List.suffix_rfl

theorem suffix_of_splitExponent {n : Int} (h : splitExponent s = some (n, t)) : t <:+ s := by
  unfold splitExponent at h
  split at h
  · next c rest =>
    split at h
    · dsimp only at h
      split at h
      · cases h
      · cases h
        exact ((List.dropWhile_suffix isDigit).trans (exponentSign_suffix rest)).trans
          (List.suffix_cons c rest)
    · cases h
  · cases h

theorem isFair_readNumber (negative : Bool) (depth : Nat) (s : Points) :
    IsFair depth s (readNumber (some digitLimit) negative s) := by
  unfold readNumber
  cases hwhole : splitWhole s with
  | none => exact isFair_malformed
  | some r =>
    obtain ⟨whole, t⟩ := r
    obtain ⟨ht, hlength⟩ := splitWhole_spec hwhole
    dsimp only
    cases hfraction : splitFraction t with
    | some f =>
      -- With a fraction the number is real, whatever follows.
      have hf : f.2 <:+ s := (suffix_of_splitFraction hfraction).trans ht
      cases hexponent : splitExponent f.2 with
      | some e => exact (suffix_of_splitExponent hexponent).trans hf
      | none => exact hf
    | none =>
      cases hexponent : splitExponent t with
      | some e => exact (suffix_of_splitExponent hexponent).trans ht
      | none =>
        simp only [Bool.or_self, Bool.false_eq_true, if_false]
        split
        · next hlong =>
          intro hs
          have hdigits := hs.digits
          have hcount : digitLimit < whole.length := of_decide_eq_true hlong
          omega
        · exact ht

theorem isFair_readScalar (depth : Nat) (s : Points) :
    IsFair depth s (readScalar (some digitLimit) s) := by
  unfold readScalar
  split
  · next r hliteral => exact suffix_of_readLiteral? hliteral
  · split
    · next rest _ =>
      exact ((isFair_readString depth rest).map Json.string).behind (List.suffix_cons 34 rest)
    · next rest _ => exact (isFair_readNumber true depth rest).behind (List.suffix_cons 45 rest)
    · exact isFair_readNumber false depth _

theorem isFair_readKey (depth : Nat) (s : Points) : IsFair depth s (readKey s) := by
  unfold readKey
  split
  · next rest =>
    have hstring := (isFair_readString depth rest).behind (List.suffix_cons 34 rest)
    split
    · next fault hread =>
      rw [hread] at hstring
      exact hstring
    · next key behind hread =>
      rw [hread] at hstring
      split
      · next colon => exact (suffix_of_skipWhite colon).trans hstring
      · exact isFair_malformed
  · exact isFair_malformed

/-! ## Values -/

/-- Behind an opening bracket there is one bracket less. -/
theorem IsFair.inside {n : Nat} {e : Reads α} (he : IsFair depth (skipWhite t) e)
    (hn : isOpening n = true) (h : n :: t <:+ s) : IsFair (depth + 1) s e :=
  he.of_suffix ((skipWhite_suffix t).trans ((List.suffix_cons n t).trans h)) fun hs =>
    ((hs.suffix h).tail hn).suffix (skipWhite_suffix t)

theorem isFair_readValue_succ {fuel : Nat}
    (hitems : ∀ depth s, IsFair depth s (readItems (some digitLimit) fuel depth s))
    (hmembers : ∀ depth s, IsFair depth s (readMembers (some digitLimit) fuel depth s))
    (depth : Nat) (s : Points) :
    IsFair depth s (readValue (some digitLimit) (fuel + 1) depth s) := by
  unfold readValue
  split
  · next rest hopen =>
    have hsuffix : 91 :: rest <:+ s := hopen ▸ skipWhite_suffix s
    split
    · exact fun hs => absurd (hs.suffix hsuffix) (not_within_zero rfl)
    · split
      · next hclose => exact (suffix_of_skipWhite hclose).trans (suffix_of_skipWhite hopen)
      · exact ((hitems _ _).map Json.array).inside rfl hsuffix
  · next rest hopen =>
    have hsuffix : 123 :: rest <:+ s := hopen ▸ skipWhite_suffix s
    split
    · exact fun hs => absurd (hs.suffix hsuffix) (not_within_zero rfl)
    · split
      · next hclose => exact (suffix_of_skipWhite hclose).trans (suffix_of_skipWhite hopen)
      · next depth _ _ =>
        have hread := (hmembers depth (skipWhite rest)).map fun ms =>
          Json.object (ms.foldl (fun ms m => put m.1 m.2 ms) [])
        exact hread.inside rfl hsuffix
  · exact (isFair_readScalar depth _).behind (skipWhite_suffix s)

theorem isFair_readItems_succ {fuel : Nat}
    (hvalue : ∀ depth s, IsFair depth s (readValue (some digitLimit) fuel depth s))
    (hitems : ∀ depth s, IsFair depth s (readItems (some digitLimit) fuel depth s))
    (depth : Nat) (s : Points) :
    IsFair depth s (readItems (some digitLimit) (fuel + 1) depth s) := by
  have hfirst := hvalue depth s
  unfold readItems
  split
  · next fault hread =>
    rw [hread] at hfirst
    exact hfirst
  · next item rest hread =>
    rw [hread] at hfirst
    split
    · next hclose => exact (suffix_of_skipWhite hclose).trans hfirst
    · next behind hcomma =>
      exact ((hitems depth behind).map (item :: ·)).behind
        ((suffix_of_skipWhite hcomma).trans hfirst)
    · exact isFair_malformed

theorem isFair_readMembers_succ {fuel : Nat}
    (hvalue : ∀ depth s, IsFair depth s (readValue (some digitLimit) fuel depth s))
    (hmembers : ∀ depth s, IsFair depth s (readMembers (some digitLimit) fuel depth s))
    (depth : Nat) (s : Points) :
    IsFair depth s (readMembers (some digitLimit) (fuel + 1) depth s) := by
  have hkey := (isFair_readKey depth (skipWhite s)).behind (skipWhite_suffix s)
  unfold readMembers
  split
  · next fault hread =>
    rw [hread] at hkey
    exact hkey
  · next key rest hread =>
    rw [hread] at hkey
    have hfirst := (hvalue depth rest).behind hkey
    split
    · next fault hread =>
      rw [hread] at hfirst
      exact hfirst
    · next value behind hread =>
      rw [hread] at hfirst
      split
      · next hclose => exact (suffix_of_skipWhite hclose).trans hfirst
      · next more hcomma =>
        exact ((hmembers depth more).map ((key, value) :: ·)).behind
          ((suffix_of_skipWhite hcomma).trans hfirst)
      · exact isFair_malformed

theorem isFair_readers (fuel : Nat) :
    (∀ depth s, IsFair depth s (readValue (some digitLimit) fuel depth s)) ∧
      (∀ depth s, IsFair depth s (readItems (some digitLimit) fuel depth s)) ∧
      ∀ depth s, IsFair depth s (readMembers (some digitLimit) fuel depth s) := by
  induction fuel with
  | zero =>
    refine ⟨fun _ _ => ?_, fun _ _ => ?_, fun _ _ => ?_⟩
    · unfold readValue
      exact isFair_malformed
    · unfold readItems
      exact isFair_malformed
    · unfold readMembers
      exact isFair_malformed
  | succ fuel ih =>
    obtain ⟨hvalue, hitems, hmembers⟩ := ih
    exact ⟨isFair_readValue_succ hitems hmembers, isFair_readItems_succ hvalue hitems,
      isFair_readMembers_succ hvalue hmembers⟩

theorem read_ne_beyondLimits (hs : Within depth s) : read depth s ≠ .error .beyondLimits := by
  have hvalue := (isFair_readers (2 * s.length + 1)).1 depth s
  unfold read readWithin
  split
  · next fault hread =>
    rw [hread] at hvalue
    rw [hvalue hs]
    simp
  · split <;> simp

/-! ## Texts beyond the limits -/

theorem readNumber_long (negative : Bool) {s : List Char} {rest : Points} (hs : IsWhole s)
    (hlong : digitLimit < s.length) (hrest : Follows rest) :
    readNumber (some digitLimit) negative (s.map Char.toNat ++ rest) = .error .beyondLimits := by
  rw [readNumber, splitWhole_digits hs.digits hrest.stops hs.ne_nil hs.head]
  dsimp only
  rw [hrest.splitFraction]
  dsimp only
  rw [hrest.splitExponent]
  dsimp only
  rw [if_neg (by decide), List.length_map]
  exact if_pos (decide_eq_true hlong)

theorem readValue_long {n : Int} (hn : 10 ^ digitLimit ≤ n.natAbs) {rest : Points}
    (hrest : Follows rest) (fuel depth : Nat) :
    readValue (some digitLimit) (fuel + 1) depth ((integer n).writePoints ++ rest) =
      .error .beyondLimits := by
  have hwhole := isWhole_toDigits n.natAbs
  have hlong : digitLimit < (Nat.toDigits 10 n.natAbs).length := by
    rw [← Nat.not_le, Nat.length_toDigits_le_iff (by decide) (by decide)]
    omega
  have hread := readNumber_long (decide (n < 0)) hwhole hlong hrest
  rw [writePoints_integer, List.append_assoc]
  cases hdigits : Nat.toDigits 10 n.natAbs with
  | nil => exact absurd hdigits hwhole.ne_nil
  | cons c s =>
    have hc : isDigit c.toNat = true := by
      rw [isDigit_toNat]
      exact hwhole.digits c (hdigits ▸ List.mem_cons_self)
    rw [hdigits] at hread
    rw [List.map_cons, List.cons_append] at hread ⊢
    rw [readValue_digit _ _ hc, hread]

theorem writePoints_object (ms : List (Points × Json)) :
    (object ms).writePoints = 123 :: (commaSeparated (writeMembers ms) ++ [125]) := by
  rw [writePoints]
  rfl

theorem writePoints_member (key : Points) (n : Int) :
    (object [(key, integer n)]).writePoints =
      123 :: (writeString key ++ 58 :: ((integer n).writePoints ++ [125])) := by
  rw [writePoints_object, writeMembers_eq_map]
  simp [commaSeparated]

theorem read_long_member (depth : Nat) (key : Points) {n : Int} (hn : 10 ^ digitLimit ≤ n.natAbs) :
    read (depth + 1) (object [(key, integer n)]).writePoints = .error .beyondLimits := by
  have htext := writePoints_member key n
  obtain ⟨fuel, hfuel⟩ : ∃ fuel,
      2 * (object [(key, integer n)]).writePoints.length + 1 = fuel + 1 + 1 + 1 :=
    ⟨2 * (object [(key, integer n)]).writePoints.length - 2, by
      rw [htext, List.length_cons]
      omega⟩
  have hmembers : readMembers (some digitLimit) (fuel + 1 + 1) depth
      (writeString key ++ 58 :: ((integer n).writePoints ++ [125])) = .error .beyondLimits := by
    rw [readMembers, skipWhite_writeString, readKey_writeString]
    dsimp only
    rw [readValue_long hn (follows_cons (by omega) [])]
  have hvalue : readValue (some digitLimit) (fuel + 1 + 1 + 1) (depth + 1)
      (123 :: (writeString key ++ 58 :: ((integer n).writePoints ++ [125]))) =
        (readMembers (some digitLimit) (fuel + 1 + 1) depth
          (writeString key ++ 58 :: ((integer n).writePoints ++ [125]))).map fun r =>
            (.object (r.1.foldl (fun ms m => put m.1 m.2 ms) []), r.2) := rfl
  unfold read readWithin
  rw [hfuel, htext, hvalue, hmembers]
  rfl

end Stockroom.Json
