/-!
# Code points

Text that comes from outside may hold surrogates that stand alone, which no `Char` is. Such text is
kept as a list of code points, and becomes a `String` only if every point is a character.
-/

namespace Stockroom.Text

/-- Text as code points, surrogates allowed. -/
abbrev Points := List Nat

/-- A half of a pair, which is no character by itself. -/
def isSurrogate (n : Nat) : Bool := 0xD800 ≤ n && n ≤ 0xDFFF

def isHighSurrogate (n : Nat) : Bool := 0xD800 ≤ n && n ≤ 0xDBFF

def isLowSurrogate (n : Nat) : Bool := 0xDC00 ≤ n && n ≤ 0xDFFF

/-- The point that a high and a low surrogate stand for together. -/
def joinSurrogates (high low : Nat) : Nat :=
  0x10000 + (high - 0xD800) * 0x400 + (low - 0xDC00)

/-- The code points of a string, none of which is a surrogate. -/
def points (s : String) : Points := s.toList.map Char.toNat

instance : Coe String Points := ⟨points⟩

/-- The string with these points, if every one of them is a character. -/
def ofPoints? (p : Points) : Option String :=
  if p.all (fun n => decide n.isValidChar) then some (String.ofList (p.map Char.ofNat)) else none

/-- Reads a text as characters. With a surrogate in it there is nothing to read. -/
def readPoints? {α : Type} (read : List Char → Option α) (p : Points) : Option α :=
  (ofPoints? p).bind fun s => read s.toList

theorem ofPoints?_points (s : String) : ofPoints? (points s) = some s := by
  have hall : (points s).all (fun n => decide n.isValidChar) = true := by
    simp only [points, List.all_map, List.all_eq_true]
    exact fun c _ => decide_eq_true c.valid
  have hback : (points s).map Char.ofNat = s.toList := by
    rw [points, List.map_map]
    conv => rhs; rw [← List.map_id s.toList]
    exact List.map_congr_left fun c _ => Char.ofNat_toNat c
  rw [ofPoints?, if_pos hall, hback, String.ofList_toList]

theorem points_injective {a b : String} (h : points a = points b) : a = b := by
  have hback := ofPoints?_points a
  rw [h, ofPoints?_points] at hback
  exact (Option.some.inj hback).symm

theorem points_append (a b : String) : points (a ++ b) = points a ++ points b := by
  rw [points, String.toList_append, List.map_append]
  rfl

theorem readPoints?_points {α : Type} (read : List Char → Option α) (s : String) :
    readPoints? read (points s) = read s.toList := by
  rw [readPoints?, ofPoints?_points, Option.bind_some]

/-! ## Points of a class -/

theorem toNat_of_isAlphanum {c : Char} (h : c.isAlphanum = true) :
    48 ≤ c.toNat ∧ c.toNat ≤ 57 ∨ 65 ≤ c.toNat ∧ c.toNat ≤ 90 ∨
      97 ≤ c.toNat ∧ c.toNat ≤ 122 := by
  have hclass : (c.isUpper = true ∨ c.isLower = true) ∨ c.isDigit = true := by
    rw [← Bool.or_eq_true, ← Bool.or_eq_true]
    exact h
  rcases hclass with (hupper | hlower) | hdigit
  · exact Or.inr (Or.inl (of_decide_eq_true hupper))
  · obtain ⟨hlow, hhigh⟩ := Bool.and_eq_true_iff.1 hlower
    exact Or.inr (Or.inr ⟨of_decide_eq_true hlow, of_decide_eq_true hhigh⟩)
  · exact Or.inl (Char.isDigit_iff_toNat.1 hdigit)

def isPoint (c : Char) (n : Nat) : Bool := n == c.toNat

/-- A point that is a character of a class. A surrogate is in no class. -/
def isPointOf (member : Char → Bool) (n : Nat) : Bool :=
  decide n.isValidChar && member (Char.ofNat n)

theorem toNat_ofNat {n : Nat} (hn : n.isValidChar) : (Char.ofNat n).toNat = n := by
  rw [Char.ofNat, dif_pos hn]
  rfl

theorem points_of_ofPoints? {p : Points} {s : String} (h : ofPoints? p = some s) :
    points s = p := by
  unfold ofPoints? at h
  split at h
  · next hvalid =>
    cases h
    rw [points, String.toList_ofList, List.map_map, List.map_congr_left, List.map_id]
    intro n hn
    exact toNat_ofNat (of_decide_eq_true (List.all_eq_true.1 hvalid n hn))
  · cases h

theorem exists_of_isPointOf {member : Char → Bool} {n : Nat} (h : isPointOf member n = true) :
    ∃ c : Char, c.toNat = n ∧ member c = true := by
  rw [isPointOf, Bool.and_eq_true, decide_eq_true_eq] at h
  exact ⟨Char.ofNat n, toNat_ofNat h.1, h.2⟩

/-! ## Order -/

/-- The order of texts by their first different point. A text comes after what it begins with. -/
def lePoints : Points → Points → Bool
  | [], _ => true
  | _ :: _, [] => false
  | m :: p, n :: q => decide (m < n) || (m == n && lePoints p q)

theorem lePoints_trans {p q r : Points} (hpq : lePoints p q = true) (hqr : lePoints q r = true) :
    lePoints p r = true := by
  induction p generalizing q r with
  | nil => rfl
  | cons m p ih =>
    match q, r with
    | n :: q, k :: r =>
      simp only [lePoints, Bool.or_eq_true, Bool.and_eq_true, decide_eq_true_eq, beq_iff_eq] at *
      rcases hpq with hmn | ⟨rfl, hpq⟩
      · rcases hqr with hnk | ⟨rfl, _⟩
        · exact Or.inl (Nat.lt_trans hmn hnk)
        · exact Or.inl hmn
      · rcases hqr with hnk | ⟨rfl, hqr⟩
        · exact Or.inl hnk
        · exact Or.inr ⟨rfl, ih hpq hqr⟩

theorem lePoints_total (p q : Points) : (lePoints p q || lePoints q p) = true := by
  induction p generalizing q with
  | nil => rfl
  | cons m p ih =>
    match q with
    | [] => rfl
    | n :: q =>
      have := ih q
      simp only [lePoints, Bool.or_eq_true, Bool.and_eq_true, decide_eq_true_eq, beq_iff_eq] at *
      rcases Nat.lt_trichotomy m n with h | rfl | h
      · exact Or.inl (Or.inl h)
      · exact this.imp (fun h => Or.inr ⟨rfl, h⟩) (fun h => Or.inr ⟨rfl, h⟩)
      · exact Or.inr (Or.inl h)

theorem lePoints_antisymm {p q : Points} (hpq : lePoints p q = true) (hqp : lePoints q p = true) :
    p = q := by
  induction p generalizing q with
  | nil =>
    cases q with
    | nil => rfl
    | cons n q => cases hqp
  | cons m p ih =>
    match q with
    | n :: q =>
      simp only [lePoints, Bool.or_eq_true, Bool.and_eq_true, decide_eq_true_eq, beq_iff_eq] at *
      rcases hpq with hmn | ⟨rfl, hpq⟩
      · omega
      · rcases hqp with hmm | ⟨-, hqp⟩
        · omega
        · rw [ih hpq hqp]

theorem nodup_eraseDups : ∀ names : List Points, names.eraseDups.Nodup
  | [] => List.nodup_nil
  | name :: names => by
    rw [List.eraseDups_cons, List.nodup_cons]
    exact ⟨by simp, nodup_eraseDups _⟩
termination_by names => names.length
decreasing_by exact Nat.lt_succ_of_le (List.length_filter_le _ _)

/-- The order of UTF-8 bytes, which is the order of code points. -/
def le (a b : String) : Bool := lePoints (points a) (points b)

theorem le_trans {a b c : String} (hab : le a b = true) (hbc : le b c = true) :
    le a c = true := lePoints_trans hab hbc

theorem le_total (a b : String) : (le a b || le b a) = true :=
  lePoints_total (points a) (points b)

end Stockroom.Text
