import Mathlib.Data.List.Basic
import Stockroom.Json.Writer

/-!
# The points of a text

What holds of every character, and of the points of the strings in a value, holds of the points that
the value is written in: what stands around the strings, or for a point in them, are characters.
-/

namespace Stockroom.Json

open Text

theorem writeItems_eq_map (items : List Json) : writeItems items = items.map writePoints := by
  induction items with
  | nil => rw [writeItems, List.map_nil]
  | cons item items ih => rw [writeItems, ih, List.map_cons]

theorem writeMembers_eq_map (ms : List (Points × Json)) :
    writeMembers ms = ms.map fun m => writeString m.1 ++ ':'.toNat :: m.2.writePoints := by
  induction ms with
  | nil => rw [writeMembers, List.map_nil]
  | cons m ms ih =>
    obtain ⟨key, value⟩ := m
    rw [writeMembers, ih, List.map_cons]

section

variable {P : Nat → Prop}

theorem forall_mem_enclosed {first last : Nat} (hfirst : P first) (hlast : P last) {p : Points}
    (hp : ∀ n ∈ p, P n) : ∀ n ∈ first :: p ++ [last], P n :=
  List.forall_mem_append.2 ⟨List.forall_mem_cons.2 ⟨hfirst, hp⟩, List.forall_mem_singleton.2 hlast⟩

variable (hchar : ∀ c : Char, P c.toNat)
include hchar

theorem forall_mem_chars (s : List Char) : ∀ n ∈ s.map Char.toNat, P n := by
  intro n hn
  obtain ⟨c, -, rfl⟩ := List.mem_map.1 hn
  exact hchar c

theorem forall_mem_writePoint {n : Nat} (hn : P n) : ∀ m ∈ writePoint n, P m := by
  have hbackslash : P backslash := hchar '\\'
  unfold writePoint
  split
  · next letter _ =>
    exact List.forall_mem_cons.2 ⟨hbackslash, List.forall_mem_singleton.2 (hchar letter)⟩
  · split
    · exact List.forall_mem_cons.2 ⟨hbackslash, List.forall_mem_singleton.2 hn⟩
    · split
      · exact forall_mem_chars hchar (unicodeEscape n)
      · exact List.forall_mem_singleton.2 hn

theorem forall_mem_writeString {p : Points} (hp : ∀ n ∈ p, P n) : ∀ n ∈ writeString p, P n := by
  refine forall_mem_enclosed (hchar '\"') (hchar '\"') fun m hm => ?_
  obtain ⟨n, hn, hm⟩ := List.mem_flatMap.1 hm
  exact forall_mem_writePoint hchar (hp n hn) m hm

theorem forall_mem_commaSeparated {l : List Points} (hl : ∀ p ∈ l, ∀ n ∈ p, P n) :
    ∀ n ∈ commaSeparated l, P n := by
  fun_induction commaSeparated l with
  | case1 => exact fun _ hn => absurd hn List.not_mem_nil
  | case2 p => exact hl p List.mem_cons_self
  | case3 p rest _ ih =>
    rw [List.forall_mem_cons] at hl
    exact List.forall_mem_append.2 ⟨hl.1, List.forall_mem_cons.2 ⟨hchar ',', ih hl.2⟩⟩

theorem forall_mem_string {p : Points} (hp : ∀ n ∈ p, P n) : ∀ n ∈ (string p).writePoints, P n := by
  rw [writePoints]
  exact forall_mem_writeString hchar hp

theorem forall_mem_array {items : List Json}
    (hitems : ∀ item ∈ items, ∀ n ∈ item.writePoints, P n) :
    ∀ n ∈ (array items).writePoints, P n := by
  rw [writePoints, writeItems_eq_map]
  exact forall_mem_enclosed (hchar '[') (hchar ']')
    (forall_mem_commaSeparated hchar (List.forall_mem_map.2 hitems))

theorem forall_mem_object {ms : List (Points × Json)}
    (hms : ∀ m ∈ ms, (∀ n ∈ m.1, P n) ∧ ∀ n ∈ m.2.writePoints, P n) :
    ∀ n ∈ (object ms).writePoints, P n := by
  rw [writePoints, writeMembers_eq_map]
  refine forall_mem_enclosed (hchar '\x7b') (hchar '\x7d')
    (forall_mem_commaSeparated hchar (List.forall_mem_map.2 fun m hm => ?_))
  exact List.forall_mem_append.2 ⟨forall_mem_writeString hchar (hms m hm).1,
    List.forall_mem_cons.2 ⟨hchar ':', (hms m hm).2⟩⟩

end

theorem write_of_body {j : Json} {text : String} (h : j.body = .ok text) : j.write = text := by
  unfold body toText at h
  split at h
  · cases h
  · next hnone =>
    have hclean := isClean_of_surrogateRun? hnone
    cases h
    unfold write
    congr 1
    rw [← List.flatMap_pure_eq_map]
    apply List.flatMap_congr
    intro n hn
    unfold escapeSurrogate
    simp [hclean n hn]

end Stockroom.Json
