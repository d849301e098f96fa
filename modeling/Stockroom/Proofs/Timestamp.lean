import Stockroom.Proofs.Number.Layout
import Stockroom.Timestamp

/-!
# The written form of a time

A time whose fields fit their places is read back, with or without an offset of whole minutes.
-/

namespace Stockroom

open Number

namespace Timestamp

/-- Every field fits its places, as those of every time on a clock do. -/
structure Fits (t : Timestamp) : Prop where
  year : t.year < 10 ^ 4
  month : t.month < 10 ^ 2
  day : t.day < 10 ^ 2
  hour : t.hour < 10 ^ 2
  minute : t.minute < 10 ^ 2
  second : t.second < 10 ^ 2
  micro : t.micro < 10 ^ 6

/-! ## Fields -/

theorem length_padded {width n : Nat} (hwidth : 0 < width) (hn : n < 10 ^ width) :
    (padded width n).length = width := by
  have hfew := (Nat.length_toDigits_le_iff (by decide) hwidth).2 hn
  rw [padded, List.length_append, zeros, List.length_replicate]
  omega

theorem number?_padded (width n : Nat) : number? (padded width n) = some n := by
  have hmap : (padded width n).mapM Text.asciiDigitValue = some (digitValues (padded width n)) :=
    mapM_eq_some_map fun c hc => asciiDigitValue_of_isDigit (isDigit_of_mem_padded hc)
  rw [number?, if_neg (by simpa using padded_ne_nil width n), hmap, Option.map_some,
    ofDigits_padded]

theorem field?_padded {width n : Nat} (hwidth : 0 < width) (hn : n < 10 ^ width)
    (rest : List Char) :
    field? width (padded width n ++ rest) = some (n, rest) := by
  have hlength := length_padded hwidth hn
  rw [field?, if_neg (by rw [List.length_append]; omega), List.take_left' hlength,
    List.drop_left' hlength, number?_padded]
  rfl

theorem expect?_cons (c : Char) (rest : List Char) : expect? c (c :: rest) = some rest :=
  if_pos rfl

/-- The fraction of a second is left out if it is zero, so it must not be one that follows. -/
theorem micro?_text {n : Nat} (hn : n < 10 ^ 6) {rest : List Char} (hrest : rest.head? ≠ some '.') :
    micro? ((if n = 0 then [] else '.' :: padded 6 n) ++ rest) = some (n, rest) := by
  split
  · next h =>
    rw [h, List.nil_append]
    unfold micro?
    split
    · next tail => exact absurd (List.head?_cons (a := '.') (l := tail)) hrest
    · rfl
  · exact field?_padded (by decide) hn rest

theorem read?_chars {t : Timestamp} (ht : t.Fits) {rest : List Char}
    (hrest : rest.head? ≠ some '.') :
    read? (t.chars ++ rest) = some (t, rest) := by
  rw [chars, read?]
  simp only [List.append_assoc, List.cons_append, Option.bind_eq_bind]
  rw [field?_padded (by decide) ht.year]
  simp only [Option.bind_some, expect?_cons]
  rw [field?_padded (by decide) ht.month]
  simp only [Option.bind_some, expect?_cons]
  rw [field?_padded (by decide) ht.day]
  simp only [Option.bind_some, expect?_cons]
  rw [field?_padded (by decide) ht.hour]
  simp only [Option.bind_some, expect?_cons]
  rw [field?_padded (by decide) ht.minute]
  simp only [Option.bind_some, expect?_cons]
  rw [field?_padded (by decide) ht.second]
  simp only [Option.bind_some]
  rw [micro?_text ht.micro hrest]
  rfl

end Timestamp

namespace Moment

open Timestamp

/-- An offset of whole minutes that fits its places. -/
def WholeMinutes (seconds : Int) : Prop := 60 ∣ seconds ∧ seconds.natAbs < 360000

theorem head_offsetChars (offset : Option Int) : (offsetChars offset).head? ≠ some '.' := by
  cases offset with
  | none => decide
  | some seconds =>
    rw [offsetChars]
    split
    · decide
    · rw [List.cons_append, List.head?_cons]
      split <;> decide

theorem nearestSecond_zero (seconds : Nat) : nearestSecond seconds 0 = seconds := by
  unfold nearestSecond
  split
  · next h => exact h.symm
  · rfl

theorem offset?_sign {c : Char} (hc : c = '-' ∨ c = '+') {hours minutes : Nat}
    (hhours : hours < 10 ^ 2) (hminutes : minutes < 10 ^ 2) :
    offset? (c :: (padded 2 hours ++ ':' :: padded 2 minutes)) =
      some (some (applySign (c == '-') ((hours * 60 + minutes) * 60))) := by
  have hlast := field?_padded (by decide) hminutes []
  rw [List.append_nil] at hlast
  unfold offset?
  split
  · next heq => cases heq
  · next heq =>
    obtain ⟨rfl, -⟩ := List.cons.inj heq
    rcases hc with hc | hc <;> cases hc
  · next x rest _ heq =>
    obtain ⟨rfl, rfl⟩ := List.cons.inj heq
    simp only [Option.bind_eq_bind]
    rw [field?_padded (by decide) hhours]
    simp only [Option.bind_some, expect?_cons]
    rw [hlast]
    have hsign : (c == '+' || c == '-') = true := by rcases hc with rfl | rfl <;> rfl
    simp [second?, micro?, hsign, nearestSecond_zero]

theorem offset?_offsetChars {offset : Option Int} (h : ∀ s ∈ offset, WholeMinutes s) :
    offset? (offsetChars offset) = some offset := by
  cases offset with
  | none => rfl
  | some seconds =>
    obtain ⟨hminutes, hhours⟩ := h seconds rfl
    rw [offsetChars]
    split
    · next hzero => rw [hzero, offset?]
    · have hhour : seconds.natAbs / 3600 < 10 ^ 2 := by omega
      have hminute : seconds.natAbs / 60 % 60 < 10 ^ 2 := by omega
      have hwhole : (seconds.natAbs / 3600 * 60 + seconds.natAbs / 60 % 60) * 60 =
          seconds.natAbs := by omega
      have hsign : ((if seconds < 0 then '-' else '+') == '-') = decide (seconds < 0) := by
        split
        · next hneg => rw [decide_eq_true hneg]; rfl
        · next hneg => rw [decide_eq_false hneg]; rfl
      rw [List.cons_append, offset?_sign (by split <;> simp) hhour hminute, hwhole, hsign,
        applySign_natAbs]

/-- A time that fits, with an offset of whole minutes if it has one. -/
structure Fits (m : Moment) : Prop where
  wall : m.wall.Fits
  offset : ∀ s ∈ m.offset, WholeMinutes s

theorem ofText?_text {m : Moment} (hm : m.Fits) : ofText? m.text = some m := by
  rw [ofText?, text, String.toList_ofList, read?_chars hm.wall (head_offsetChars m.offset)]
  show (offset? (offsetChars m.offset)).bind _ = _
  rw [offset?_offsetChars hm.offset]
  rfl

end Moment

end Stockroom
