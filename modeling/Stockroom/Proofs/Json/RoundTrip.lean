import Mathlib.Tactic.IntervalCases
import Stockroom.Proofs.Json.Number
import Stockroom.Proofs.Json.Writer

/-!
# JSON is read back

The text of a value is read as that value, if its strings are characters, its reals are finite, its
integers have no more digits than a reader takes, no two members of an object share a key and it is
no deeper than a reader goes.
-/

namespace Stockroom

open Number Text

namespace Text

/-- Points that are characters. -/
def IsString (p : Points) : Prop := ∀ n ∈ p, n.isValidChar

theorem isString_points (s : List Char) : IsString (s.map Char.toNat) := by
  intro n hn
  obtain ⟨c, -, rfl⟩ := List.mem_map.1 hn
  exact c.valid

theorem IsString.isClean {p : Points} (h : IsString p) : IsClean p := by
  intro n hn
  rw [← toNat_ofNat (h n hn)]
  exact not_isSurrogate_toNat _

end Text

namespace Json

/-! ## Strings -/

/-- The element of a string that a point is written as. -/
def pieceOf (n : Nat) : Piece :=
  if controlLetter? n = none ∧ n < 32 then .escaped n else .plain n

theorem simpleEscape?_controlLetter {n : Nat} {letter : Char} (h : controlLetter? n = some letter) :
    simpleEscape? letter.toNat = some n ∧ letter.toNat ≠ 117 := by
  have hall : ∀ l ∈ [(8, 'b'), (9, 't'), (10, 'n'), (12, 'f'), (13, 'r')],
      simpleEscape? l.2.toNat = some l.1 ∧ l.2.toNat ≠ 117 := by decide
  obtain ⟨before, later, heq, -⟩ := List.lookup_eq_some_iff.1 h
  exact hall (n, letter) (heq ▸ List.mem_append_right _ List.mem_cons_self)

theorem readPieces_simple {c n : Nat} (hc : c ≠ 117) (h : simpleEscape? c = some n)
    (rest : Points) :
    readPieces (backslash :: c :: rest) =
      (readPieces rest).map fun r => (.plain n :: r.1, r.2) := by
  rw [backslash, readPieces, h]
  intro _ _ _ _ _ heq
  exact absurd heq hc

theorem exists_unicodeEscape {n : Nat} (hn : n < 32) :
    ∃ a b c d, (unicodeEscape n).map Char.toNat = [92, 117, a, b, c, d] ∧
      unit? a b c d = some n := by
  refine ⟨_, _, _, _, rfl, ?_⟩
  revert n
  decide

theorem readPieces_plain {n : Nat} (hquote : n ≠ doubleQuote) (hescape : n ≠ backslash)
    (hn : ¬ n < 32) (rest : Points) :
    readPieces (n :: rest) = (readPieces rest).map fun r => (.plain n :: r.1, r.2) := by
  rw [readPieces, if_neg hn]
  · exact hquote
  · exact fun _ _ _ _ _ heq => absurd heq hescape
  · exact fun _ _ heq => absurd heq hescape

theorem readPieces_writePoint (n : Nat) (rest : Points) :
    readPieces (writePoint n ++ rest) = (readPieces rest).map fun r => (pieceOf n :: r.1, r.2) := by
  unfold writePoint pieceOf
  split
  · next letter hletter =>
    obtain ⟨hsimple, hne⟩ := simpleEscape?_controlLetter hletter
    rw [if_neg (by simp [hletter])]
    exact readPieces_simple hne hsimple rest
  · next hletter =>
    split
    · next hmark =>
      have hsimple : simpleEscape? n = some n ∧ n ≠ 117 ∧ ¬ n < 32 := by
        rcases hmark with rfl | rfl <;> decide
      rw [if_neg fun h => hsimple.2.2 h.2]
      exact readPieces_simple hsimple.2.1 hsimple.1 rest
    · next hmark =>
      rw [not_or] at hmark
      split
      · next hn =>
        obtain ⟨a, b, c, d, htext, hunit⟩ := exists_unicodeEscape hn
        rw [if_pos ⟨hletter, hn⟩, htext]
        show readPieces (92 :: 117 :: a :: b :: c :: d :: rest) = _
        rw [readPieces, hunit]
      · next hn =>
        rw [if_neg fun h => hn h.2]
        exact readPieces_plain hmark.1 hmark.2 hn rest

theorem joinPieces_escaped {n : Nat} (hn : isHighSurrogate n = false) (rest : List Piece) :
    joinPieces (.escaped n :: rest) = n :: joinPieces rest := by
  match rest with
  | .escaped low :: rest => rw [joinPieces, hn, Bool.false_and, if_neg Bool.false_ne_true]
  | .plain m :: rest => rfl
  | [] => rfl

/-- No control is a high surrogate, so no two elements of a string are joined. -/
theorem joinPieces_map (p : Points) : joinPieces (p.map pieceOf) = p := by
  induction p with
  | nil => rfl
  | cons n p ih =>
    rw [List.map_cons, pieceOf]
    split
    · next h =>
      have hn : isHighSurrogate n = false := by
        rw [isHighSurrogate, decide_eq_false (by omega), Bool.false_and]
      rw [joinPieces_escaped hn, ih]
    · rw [joinPieces, ih]

theorem readString_writeString (p rest : Points) :
    readString (p.flatMap writePoint ++ 34 :: rest) = .ok (p, rest) := by
  have hpieces : readPieces (p.flatMap writePoint ++ 34 :: rest) = .ok (p.map pieceOf, rest) := by
    induction p with
    | nil => rfl
    | cons n p ih =>
      rw [List.flatMap_cons, List.append_assoc, readPieces_writePoint, ih]
      rfl
  rw [readString, hpieces]
  exact congrArg (fun q => Except.ok (q, rest)) (joinPieces_map p)

/-! ## Scalars -/

section

variable (limit : Option Nat)

theorem digit_bounds {c : Nat} (hc : isDigit c = true) : 48 ≤ c ∧ c ≤ 57 := by
  rwa [isDigit, Bool.and_eq_true, decide_eq_true_eq, decide_eq_true_eq] at hc

theorem readValue_digit (negative : Bool) {c : Nat} (hc : isDigit c = true) (fuel depth : Nat)
    (s : Points) :
    readValue limit (fuel + 1) depth ((if negative then [45] else []) ++ c :: s) =
      readNumber limit negative (c :: s) := by
  obtain ⟨hlow, hhigh⟩ := digit_bounds hc
  cases negative <;> interval_cases c <;> rfl

theorem exists_of_readNumber {limit : Option Nat} {negative : Bool} {s : Points} {r : Json × Points}
    (h : readNumber limit negative s = .ok r) : ∃ c rest, s = c :: rest ∧ isDigit c = true := by
  cases s with
  | nil => cases h
  | cons c rest =>
    refine ⟨c, rest, rfl, ?_⟩
    by_contra hc
    have hsplit : splitWhole (c :: rest) = none := by
      unfold splitWhole
      split
      · next heq => exact absurd ((List.cons.inj heq).1 ▸ rfl) hc
      · next heq =>
        obtain ⟨rfl, rfl⟩ := List.cons.inj heq
        rw [if_neg hc]
      · rfl
    rw [readNumber, hsplit] at h
    cases h

theorem readValue_number {limit : Option Nat} (negative : Bool) {t rest : Points} {j : Json}
    (h : readNumber limit negative (t ++ rest) = .ok (j, rest)) (fuel depth : Nat) :
    readValue limit (fuel + 1) depth ((if negative then [45] else []) ++ t ++ rest) =
      .ok (j, rest) := by
  obtain ⟨c, s, hs, hc⟩ := exists_of_readNumber h
  rw [List.append_assoc, hs, readValue_digit limit negative hc, ← hs, h]

theorem isWhole_toDigits (n : Nat) : IsWhole (Nat.toDigits 10 n) where
  ne_nil := Nat.toDigits_ne_nil
  digits c hc := isDigit_of_mem_toDigits hc
  head := by
    rcases Nat.eq_zero_or_pos n with rfl | hn
    · exact Or.inl rfl
    · exact Or.inr (head_toDigits hn)

theorem map_signed (negative : Bool) (s : List Char) :
    ((if negative then ['-'] else []) ++ s).map Char.toNat =
      (if negative then [45] else []) ++ s.map Char.toNat := by
  cases negative <;> rfl

theorem writePoints_integer (n : Int) :
    (integer n).writePoints =
      (if decide (n < 0) then [45] else []) ++ (Nat.toDigits 10 n.natAbs).map Char.toNat := by
  rw [writePoints, points, toList_toString, ← map_signed]
  simp only [decide_eq_true_eq]

theorem writePoints_real (negative : Bool) {rank : Fin (infinityRank + 1)}
    (h : rank.val < infinityRank) :
    (real (.signed negative rank)).writePoints =
      (if negative then [45] else []) ++ (Layout.wire.magnitude rank.val).map Char.toNat := by
  rw [writePoints, Layout.text, if_neg (Nat.ne_of_lt h), points, String.toList_ofList, map_signed]

/-- The integer has no more digits than a reader takes. -/
def IsShort (limit : Option Nat) (n : Int) : Prop :=
  ∀ m ∈ limit, (Nat.toDigits 10 n.natAbs).length ≤ m

theorem isShort_none (n : Int) : IsShort none n := by
  rintro _ ⟨⟩

theorem isShort_digitLimit {n : Int} (hn : n.natAbs < 10 ^ digitLimit) :
    IsShort (some digitLimit) n := by
  rintro _ ⟨⟩
  exact (Nat.length_toDigits_le_iff (by decide) (by decide)).2 hn

theorem readNumber_toDigits {limit : Option Nat} {n : Int} (hn : IsShort limit n) {rest : Points}
    (hrest : Follows rest) :
    readNumber limit (decide (n < 0)) ((Nat.toDigits 10 n.natAbs).map Char.toNat ++ rest) =
      .ok (.integer n, rest) := by
  rw [readNumber_integer _ (isWhole_toDigits n.natAbs) hn hrest, ofDigits_toDigits,
    applySign_natAbs]

theorem readValue_string (p rest : Points) (fuel depth : Nat) :
    readValue limit (fuel + 1) depth ((string p).writePoints ++ rest) = .ok (.string p, rest) := by
  have htext : (string p).writePoints ++ rest = 34 :: (p.flatMap writePoint ++ 34 :: rest) := by
    rw [writePoints, writeString, List.append_assoc]
    rfl
  have hscalar : readValue limit (fuel + 1) depth (34 :: (p.flatMap writePoint ++ 34 :: rest)) =
      (readString (p.flatMap writePoint ++ 34 :: rest)).map fun r => (.string r.1, r.2) := rfl
  rw [htext, hscalar, readString_writeString]
  rfl

/-! ## Arrays and objects -/

mutual

/-- Values whose text is read back by a reader of some depth. -/
def Readable : (depth : Nat) → Json → Prop
  | _, .null => True
  | _, .bool _ => True
  | _, .integer n => IsShort limit n
  | _, .real x => x.isFinite = true
  | _, .string p => IsString p
  | 0, .array _ => False
  | depth + 1, .array items => ReadableItems depth items
  | 0, .object _ => False
  | depth + 1, .object ms => (ms.map Prod.fst).Nodup ∧ ReadableMembers depth ms

def ReadableItems : (depth : Nat) → List Json → Prop
  | _, [] => True
  | depth, item :: rest => Readable depth item ∧ ReadableItems depth rest

def ReadableMembers : (depth : Nat) → List (Points × Json) → Prop
  | _, [] => True
  | depth, (key, value) :: rest =>
    IsString key ∧ Readable depth value ∧ ReadableMembers depth rest

end

end

theorem put_of_not_mem {key : Points} {value : Json} {ms : List (Points × Json)}
    (h : key ∉ ms.map Prod.fst) : put key value ms = ms ++ [(key, value)] := by
  induction ms with
  | nil => rfl
  | cons m ms ih =>
    rw [List.map_cons, List.mem_cons, not_or] at h
    rw [put, if_neg (Ne.symm h.1), ih h.2, List.cons_append]

theorem foldl_put {ms acc : List (Points × Json)} (h : ((acc ++ ms).map Prod.fst).Nodup) :
    ms.foldl (fun acc m => put m.1 m.2 acc) acc = acc ++ ms := by
  induction ms generalizing acc with
  | nil => rw [List.foldl_nil, List.append_nil]
  | cons m ms ih =>
    have hnew : m.1 ∉ acc.map Prod.fst := by
      rw [List.map_append, List.map_cons] at h
      exact fun hm => (List.disjoint_of_nodup_append h) hm List.mem_cons_self
    rw [List.foldl_cons, put_of_not_mem hnew]
    have hsplit : acc ++ m :: ms = acc ++ [(m.1, m.2)] ++ ms := by simp
    rw [hsplit] at h ⊢
    exact ih h

/-- The text begins with neither a blank nor the end of an array. -/
def Opens (s : Points) : Prop := ∃ c rest, s = c :: rest ∧ isWhite c = false ∧ c ≠ 93

variable {limit : Option Nat}

theorem opens_signed (negative : Bool) {t : Points} {r : Json × Points}
    (h : readNumber limit negative t = .ok r) : Opens ((if negative then [45] else []) ++ t) := by
  obtain ⟨c, s, rfl, hc⟩ := exists_of_readNumber h
  obtain ⟨hlow, hhigh⟩ := digit_bounds hc
  cases negative with
  | true => exact ⟨45, c :: s, rfl, by decide, by decide⟩
  | false => exact ⟨c, s, rfl, by interval_cases c <;> rfl, by omega⟩

theorem Opens.append {s : Points} (h : Opens s) (t : Points) : Opens (s ++ t) := by
  obtain ⟨c, s, rfl, hc⟩ := h
  exact ⟨c, s ++ t, rfl, hc⟩

theorem exists_commaSeparated (p : Points) (l : List Points) :
    ∃ t, commaSeparated (p :: l) = p ++ t := by
  cases l with
  | nil => exact ⟨[], (List.append_nil p).symm⟩
  | cons q l => exact ⟨_, rfl⟩

theorem follows_nil : Follows [] := by rintro n ⟨⟩

theorem opens_writePoints {depth : Nat} {j : Json} (hj : Readable limit depth j) :
    Opens j.writePoints := by
  match j with
  | .null => exact ⟨_, _, rfl, by decide, by decide⟩
  | .bool true => exact ⟨_, _, rfl, by decide, by decide⟩
  | .bool false => exact ⟨_, _, rfl, by decide, by decide⟩
  | .integer n =>
    have hread := readNumber_toDigits hj follows_nil
    rw [List.append_nil] at hread
    exact writePoints_integer n ▸ opens_signed _ hread
  | .real (.signed negative rank) =>
    have hrank : rank.val < infinityRank := of_decide_eq_true hj
    have hread := readNumber_magnitude limit .wire negative hrank follows_nil
    rw [List.append_nil] at hread
    exact writePoints_real negative hrank ▸ opens_signed negative hread
  | .real .nan => cases hj
  | .string p =>
    rw [writePoints]
    exact ⟨_, _, rfl, by decide, by decide⟩
  | .array items =>
    rw [writePoints]
    exact ⟨_, _, rfl, by decide, by decide⟩
  | .object ms =>
    rw [writePoints]
    exact ⟨_, _, rfl, by decide, by decide⟩

theorem follows_cons {n : Nat} (hn : n = 44 ∨ n = 93 ∨ n = 125) (rest : Points) :
    Follows (n :: rest) := by
  rintro m ⟨⟩
  exact hn

theorem skipWhite_cons {c : Nat} (hc : isWhite c = false) (s : Points) :
    skipWhite (c :: s) = c :: s := List.dropWhile_cons_of_neg (by simp [hc])

theorem readValue_array {fuel depth : Nat} {s rest : Points} {items : List Json} (hs : Opens s)
    (h : readItems limit fuel depth s = .ok (items, rest)) :
    readValue limit (fuel + 1) (depth + 1) (91 :: s) = .ok (.array items, rest) := by
  obtain ⟨c, t, rfl, hc, hne⟩ := hs
  rw [readValue, skipWhite_cons rfl]
  split
  · next heq =>
    obtain ⟨-, rfl⟩ := List.cons.inj heq
    dsimp only
    rw [skipWhite_cons hc]
    split
    · next hend => exact absurd (List.cons.inj hend).1 hne
    · rw [h]
      rfl
  · next heq => exact absurd (List.cons.inj heq).1 (by decide)
  · next hno _ => exact absurd rfl (hno _)

theorem readValue_object {fuel depth : Nat} {s rest : Points} {ms : List (Points × Json)}
    (hms : (ms.map Prod.fst).Nodup)
    (h : readMembers limit fuel depth (34 :: s) = .ok (ms, rest)) :
    readValue limit (fuel + 1) (depth + 1) (123 :: 34 :: s) = .ok (.object ms, rest) := by
  have hread : readValue limit (fuel + 1) (depth + 1) (123 :: 34 :: s) =
      (readMembers limit fuel depth (34 :: s)).map fun r =>
        (.object (r.1.foldl (fun ms m => put m.1 m.2 ms) []), r.2) := rfl
  have hput : ms.foldl (fun ms m => put m.1 m.2 ms) [] = [] ++ ms := foldl_put hms
  rw [hread, h]
  show Except.ok (Json.object (ms.foldl (fun ms m => put m.1 m.2 ms) []), rest) = _
  rw [hput, List.nil_append]

theorem readItems_last {fuel depth : Nat} {s rest : Points} {item : Json}
    (h : readValue limit fuel depth s = .ok (item, 93 :: rest)) :
    readItems limit (fuel + 1) depth s = .ok ([item], rest) := by
  rw [readItems, h]
  rfl

theorem readItems_cons {fuel depth : Nat} {s t rest : Points} {item : Json} {items : List Json}
    (h : readValue limit fuel depth s = .ok (item, 44 :: t))
    (hitems : readItems limit fuel depth t = .ok (items, rest)) :
    readItems limit (fuel + 1) depth s = .ok (item :: items, rest) := by
  rw [readItems, h]
  show (readItems limit fuel depth t).map (fun r => (item :: r.1, r.2)) = _
  rw [hitems]
  rfl

theorem readKey_writeString (key s : Points) :
    readKey (writeString key ++ 58 :: s) = .ok (key, s) := by
  have htext : writeString key ++ 58 :: s = 34 :: (key.flatMap writePoint ++ 34 :: 58 :: s) := by
    rw [writeString, List.append_assoc]
    rfl
  rw [htext, readKey, readString_writeString]
  rfl

theorem skipWhite_writeString (key s : Points) :
    skipWhite (writeString key ++ s) = writeString key ++ s := skipWhite_cons rfl _

section

variable {fuel depth : Nat} {key s t rest : Points} {value : Json}

theorem readMembers_last (h : readValue limit fuel depth s = .ok (value, 125 :: rest)) :
    readMembers limit (fuel + 1) depth (writeString key ++ 58 :: s) =
      .ok ([(key, value)], rest) := by
  rw [readMembers, skipWhite_writeString, readKey_writeString]
  dsimp only
  rw [h]
  rfl

theorem readMembers_cons {ms : List (Points × Json)}
    (h : readValue limit fuel depth s = .ok (value, 44 :: t))
    (hms : readMembers limit fuel depth t = .ok (ms, rest)) :
    readMembers limit (fuel + 1) depth (writeString key ++ 58 :: s) =
      .ok ((key, value) :: ms, rest) := by
  rw [readMembers, skipWhite_writeString, readKey_writeString]
  dsimp only
  rw [h]
  show (readMembers limit fuel depth t).map (fun r => ((key, value) :: r.1, r.2)) = _
  rw [hms]
  rfl

end

mutual

theorem readValue_writePoints (j : Json) {fuel depth : Nat} {rest : Points}
    (hj : Readable limit depth j) (hfuel : 2 * j.writePoints.length < fuel) (hrest : Follows rest) :
    readValue limit fuel depth (j.writePoints ++ rest) = .ok (j, rest) := by
  -- The reader takes one step for an item and one for its value, and a bracket, a comma or a key
  -- stands in the text for both: two steps for each point are enough.
  obtain ⟨fuel, rfl⟩ : ∃ k, fuel = k + 1 := ⟨fuel - 1, by omega⟩
  match j, depth with
  | .null, _ => rfl
  | .bool true, _ => rfl
  | .bool false, _ => rfl
  | .integer n, depth =>
    rw [writePoints_integer]
    exact readValue_number _ (readNumber_toDigits hj hrest) fuel depth
  | .real .nan, _ => cases hj
  | .real (.signed negative rank), depth =>
    -- Infinity is written as null, so only a finite rank comes back.
    have hrank : rank.val < infinityRank := of_decide_eq_true hj
    have hread := readNumber_magnitude limit .wire negative hrank hrest
    rw [ofRank_rank] at hread
    rw [writePoints_real negative hrank]
    exact readValue_number _ hread fuel depth
  | .string p, depth => exact readValue_string limit p rest fuel depth
  | .array [], depth + 1 => rfl
  | .array (item :: items), depth + 1 =>
    rw [writePoints, List.length_append, List.length_cons] at hfuel
    -- The reader looks for the end of the array first, which is not how its first item begins.
    obtain ⟨t, ht⟩ := exists_commaSeparated item.writePoints (writeItems items)
    have hopens : Opens (commaSeparated (writeItems (item :: items)) ++ 93 :: rest) := by
      rw [writeItems, ht, List.append_assoc]
      exact (opens_writePoints hj.1).append _
    rw [writePoints, List.append_assoc]
    exact readValue_array hopens
      (readItems_writeItems (item :: items) (List.cons_ne_nil _ _) hj (by omega))
  | .object [], depth + 1 => rfl
  | .object ((key, value) :: ms), depth + 1 =>
    rw [writePoints, List.length_append, List.length_cons] at hfuel
    obtain ⟨t, ht⟩ := exists_commaSeparated (writeString key ++ ':'.toNat :: value.writePoints)
      (writeMembers ms)
    have hread : readMembers limit fuel depth
        (commaSeparated (writeMembers ((key, value) :: ms)) ++ 125 :: rest) =
          .ok ((key, value) :: ms, rest) :=
      readMembers_writeMembers _ (List.cons_ne_nil _ _) hj.2 (by omega)
    rw [writePoints, List.append_assoc]
    rw [writeMembers, ht] at hread ⊢
    exact readValue_object hj.1 hread

theorem readItems_writeItems (items : List Json) {fuel depth : Nat} {rest : Points}
    (hne : items ≠ []) (hj : ReadableItems limit depth items)
    (hfuel : 2 * (commaSeparated (writeItems items)).length + 1 < fuel) :
    readItems limit fuel depth (commaSeparated (writeItems items) ++ 93 :: rest) =
      .ok (items, rest) := by
  obtain ⟨fuel, rfl⟩ : ∃ k, fuel = k + 1 := ⟨fuel - 1, by omega⟩
  match items with
  | [item] =>
    exact readItems_last (readValue_writePoints item hj.1 (by
      show 2 * (commaSeparated (writeItems [item])).length < fuel
      omega) (follows_cons (by omega) rest))
  | item :: next :: items =>
    have hsplit : commaSeparated (writeItems (item :: next :: items)) =
      item.writePoints ++ 44 :: commaSeparated (writeItems (next :: items)) := rfl
    rw [hsplit, List.length_append, List.length_cons] at hfuel
    rw [hsplit, List.append_assoc]
    exact readItems_cons (readValue_writePoints item hj.1 (by omega) (follows_cons (by omega) _))
      (readItems_writeItems (next :: items) (List.cons_ne_nil _ _) hj.2 (by omega))

theorem readMembers_writeMembers (ms : List (Points × Json)) {fuel depth : Nat} {rest : Points}
    (hne : ms ≠ []) (hj : ReadableMembers limit depth ms)
    (hfuel : 2 * (commaSeparated (writeMembers ms)).length + 1 < fuel) :
    readMembers limit fuel depth (commaSeparated (writeMembers ms) ++ 125 :: rest) =
      .ok (ms, rest) := by
  obtain ⟨fuel, rfl⟩ : ∃ k, fuel = k + 1 := ⟨fuel - 1, by omega⟩
  match ms with
  | [(key, value)] =>
    have hsplit : commaSeparated (writeMembers [(key, value)]) =
      writeString key ++ 58 :: value.writePoints := rfl
    rw [hsplit, List.length_append, List.length_cons] at hfuel
    rw [hsplit, List.append_assoc]
    exact readMembers_last
      (readValue_writePoints value hj.2.1 (by omega) (follows_cons (by omega) rest))
  | (key, value) :: next :: ms =>
    have hsplit : commaSeparated (writeMembers ((key, value) :: next :: ms)) =
      writeString key ++ 58 :: value.writePoints ++
        44 :: commaSeparated (writeMembers (next :: ms)) := rfl
    rw [hsplit, List.length_append, List.length_append, List.length_cons, List.length_cons] at hfuel
    rw [hsplit, List.append_assoc, List.append_assoc]
    exact readMembers_cons
      (readValue_writePoints value hj.2.1 (by omega) (follows_cons (by omega) _))
      (readMembers_writeMembers (next :: ms) (List.cons_ne_nil _ _) hj.2.2 (by omega))

end

/-! ## Texts -/

theorem readWithin_writePoints {depth : Nat} {j : Json} (hj : Readable limit depth j) :
    readWithin limit depth j.writePoints = .ok j := by
  have hread := readValue_writePoints j hj (Nat.lt_succ_self _) follows_nil
  rw [List.append_nil] at hread
  rw [readWithin, hread]
  rfl

mutual

theorem isString_writePoints (j : Json) {depth : Nat} (hj : Readable limit depth j) :
    IsString j.writePoints := by
  match j, depth with
  | .null, _ | .bool true, _ | .bool false, _ => exact isString_points _
  | .integer n, depth =>
    rw [writePoints]
    exact isString_points _
  | .real x, _ =>
    rw [writePoints]
    exact isString_points _
  | .string p, _ => exact forall_mem_string Char.valid hj
  | .array items, depth + 1 => exact forall_mem_array Char.valid (isString_items items hj)
  | .object ms, depth + 1 => exact forall_mem_object Char.valid (isString_members ms hj.2)

theorem isString_items (items : List Json) {depth : Nat} (hj : ReadableItems limit depth items) :
    ∀ item ∈ items, IsString item.writePoints := by
  match items with
  | [] => exact fun _ hitem => absurd hitem List.not_mem_nil
  | item :: items =>
    exact List.forall_mem_cons.2 ⟨isString_writePoints item hj.1, isString_items items hj.2⟩

theorem isString_members (ms : List (Points × Json)) {depth : Nat}
    (hj : ReadableMembers limit depth ms) :
    ∀ m ∈ ms, IsString m.1 ∧ IsString m.2.writePoints := by
  match ms with
  | [] => exact fun _ hm => absurd hm List.not_mem_nil
  | (key, value) :: ms =>
    exact List.forall_mem_cons.2
      ⟨⟨hj.1, isString_writePoints value hj.2.1⟩, isString_members ms hj.2.2⟩

end

theorem points_write {j : Json} (h : IsString j.writePoints) : points j.write = j.writePoints := by
  have hescape : ∀ n ∈ j.writePoints, (escapeSurrogate n).map Char.toNat = [n] := by
    intro n hn
    have hvalid := toNat_ofNat (h n hn)
    have hsurrogate : isSurrogate n = false := hvalid ▸ not_isSurrogate_toNat _
    rw [escapeSurrogate, hsurrogate, if_neg Bool.false_ne_true, List.map_singleton, hvalid]
  rw [points, write, String.toList_ofList, List.map_flatMap, List.flatMap_congr hescape,
    List.flatMap_singleton']

/-- The text of a value is read as that value. -/
theorem readWithin_write {depth : Nat} {j : Json} (hj : Readable limit depth j) :
    readWithin limit depth (points j.write) = .ok j := by
  rw [points_write (isString_writePoints j hj), readWithin_writePoints hj]

theorem read_write {depth : Nat} {j : Json} (hj : Readable (some digitLimit) depth j) :
    read depth (points j.write) = .ok j := readWithin_write hj

/-! ## Objects whose keys are texts -/

theorem get?_map_points (ms : List (String × Json)) (key : String) :
    get? (ms.map fun m => (points m.1, m.2)) key = ms.lookup key := by
  induction ms with
  | nil => rfl
  | cons m ms ih =>
    have hkey : (points key == points m.1) = (key == m.1) := by
      rw [Bool.eq_iff_iff, beq_iff_eq, beq_iff_eq]
      exact ⟨points_injective, congrArg points⟩
    rw [get?] at ih ⊢
    rw [List.map_cons, List.lookup_cons, List.lookup_cons, ih, hkey]

theorem readableItems_iff {depth : Nat} {items : List Json} :
    ReadableItems limit depth items ↔ ∀ item ∈ items, Readable limit depth item := by
  induction items with
  | nil => exact ⟨fun _ _ hitem => absurd hitem List.not_mem_nil, fun _ => trivial⟩
  | cons item items ih => rw [ReadableItems, List.forall_mem_cons, ih]

theorem readableMembers_iff {depth : Nat} {ms : List (Points × Json)} :
    ReadableMembers limit depth ms ↔ ∀ m ∈ ms, IsString m.1 ∧ Readable limit depth m.2 := by
  induction ms with
  | nil => exact ⟨fun _ _ hm => absurd hm List.not_mem_nil, fun _ => trivial⟩
  | cons m ms ih => rw [ReadableMembers, List.forall_mem_cons, ih, and_assoc]

theorem readable_fields {depth : Nat} {ms : List (String × Json)} (hkeys : (ms.map Prod.fst).Nodup)
    (hms : ∀ m ∈ ms, Readable limit depth m.2) : Readable limit (depth + 1) (fields ms) := by
  have hpoints : (ms.map fun m => (points m.1, m.2)).map Prod.fst =
      (ms.map Prod.fst).map points := by
    rw [List.map_map, List.map_map]
    rfl
  refine ⟨?_, readableMembers_iff.2 fun m hm => ?_⟩
  · rw [hpoints]
    exact hkeys.map fun _ _ => points_injective
  · obtain ⟨field, hfield, rfl⟩ := List.mem_map.1 hm
    exact ⟨isString_points field.1.toList, hms field hfield⟩

end Json

end Stockroom
