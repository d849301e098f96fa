import Mathlib.Data.Nat.Digits.Defs
import Stockroom.Proofs.Number.Layout

/-!
# How an integer is spelled

Blanks may stand around it and one sign in front of its digits, which are decimal digits of any
script, at most `digitLimit` of them, with single underscores between some. Exactly the texts of
this form are read, and what is read is the value that the digits have by their places.
-/

namespace Stockroom

open Number Text

namespace Text

theorem exists_trim {α : Type} (outer : α → Bool) (s : List α) :
    ∃ before behind, s = before ++ trim outer s ++ behind ∧
      ∀ c ∈ before ++ behind, outer c = true := by
  have hall (t : List α) : ∀ c ∈ t.takeWhile outer, outer c = true :=
    fun c hc => List.all_eq_true.1 List.all_takeWhile c hc
  have hinner : s.dropWhile outer =
      trim outer s ++ ((s.dropWhile outer).reverse.takeWhile outer).reverse := by
    rw [trim, ← List.reverse_append, List.takeWhile_append_dropWhile, List.reverse_reverse]
  refine ⟨s.takeWhile outer, ((s.dropWhile outer).reverse.takeWhile outer).reverse, ?_, ?_⟩
  · rw [List.append_assoc, ← hinner, List.takeWhile_append_dropWhile]
  · refine List.forall_mem_append.2 ⟨hall s, fun c hc => ?_⟩
    exact hall _ c (List.mem_reverse.1 hc)

theorem readPoints?_eq_some_iff {α : Type} {read : List Char → Option α} {p : Points} {a : α} :
    readPoints? read p = some a ↔ ∃ s : List Char, p = s.map Char.toNat ∧ read s = some a := by
  constructor
  · intro h
    obtain ⟨s, hs, hread⟩ := Option.bind_eq_some_iff.1 h
    exact ⟨s.toList, (points_of_ofPoints? hs).symm, hread⟩
  · rintro ⟨s, rfl, hread⟩
    have hpoints : s.map Char.toNat = points (String.ofList s) := by
      rw [points, String.toList_ofList]
    rw [hpoints, readPoints?_points, String.toList_ofList, hread]

end Text

namespace Number

/-! ## Digit strings -/

/-- A digit string and the values of its digits. An underscore may stand between two of them. -/
inductive DigitString : List Char → List Nat → Prop
  | last {c : Char} {d : Nat} (hd : digitValue c = some d) : DigitString [c] [d]
  | digit {c : Char} {d : Nat} {s : List Char} {ds : List Nat} (hd : digitValue c = some d)
      (hs : DigitString s ds) : DigitString (c :: s) (d :: ds)
  | marked {c : Char} {d : Nat} {s : List Char} {ds : List Nat} (hd : digitValue c = some d)
      (hs : DigitString s ds) : DigitString (c :: '_' :: s) (d :: ds)

theorem digitString_of_grouped {s : List Char} {ds : List Nat}
    (h : grouped digitValue s = some ds) : DigitString s ds := by
  fun_induction grouped digitValue s generalizing ds with
  | case1 => cases h
  | case2 c =>
    obtain ⟨d, hd, rfl⟩ := Option.map_eq_some_iff.1 h
    exact .last hd
  | case3 c rest ih =>
    obtain ⟨d, hd, h⟩ := Option.bind_eq_some_iff.1 h
    obtain ⟨more, hmore, rfl⟩ := Option.map_eq_some_iff.1 h
    exact .marked hd (ih hmore)
  | case4 c rest _ _ ih =>
    obtain ⟨d, hd, h⟩ := Option.bind_eq_some_iff.1 h
    obtain ⟨more, hmore, rfl⟩ := Option.map_eq_some_iff.1 h
    exact .digit hd (ih hmore)

theorem DigitString.ne_nil {s : List Char} {ds : List Nat} (h : DigitString s ds) : s ≠ [] := by
  cases h <;> exact List.cons_ne_nil _ _

theorem DigitString.head_ne {s : List Char} {ds : List Nat} (h : DigitString s ds) (t : List Char) :
    s ≠ '_' :: t := by
  have hmark : digitValue '_' = none := by decide
  rintro rfl
  cases h with
  | last hd => rw [hmark] at hd; cases hd
  | digit hd hs => rw [hmark] at hd; cases hd
  | marked hd hs => rw [hmark] at hd; cases hd

theorem DigitString.grouped_eq {s : List Char} {ds : List Nat} (h : DigitString s ds) :
    grouped digitValue s = some ds := by
  induction h with
  | last hd => rw [grouped, hd, Option.map_some]
  | @digit c d s ds hd hs ih =>
    rw [grouped, hd, Option.bind_some, ih, Option.map_some]
    · exact hs.ne_nil
    · exact hs.head_ne
  | marked hd hs ih => rw [grouped, hd, Option.bind_some, ih, Option.map_some]

theorem grouped_eq_some_iff {s : List Char} {ds : List Nat} :
    grouped digitValue s = some ds ↔ DigitString s ds :=
  ⟨digitString_of_grouped, DigitString.grouped_eq⟩

theorem DigitString.eq_or {s : List Char} {ds : List Nat} (h : DigitString s ds) :
    ∀ c ∈ s, c = '_' ∨ ∃ d, digitValue c = some d := by
  induction h with
  | last hd => exact List.forall_mem_singleton.2 (Or.inr ⟨_, hd⟩)
  | digit hd _ ih => exact List.forall_mem_cons.2 ⟨Or.inr ⟨_, hd⟩, ih⟩
  | marked hd _ ih =>
    exact List.forall_mem_cons.2 ⟨Or.inr ⟨_, hd⟩, List.forall_mem_cons.2 ⟨Or.inl rfl, ih⟩⟩

theorem ofDigits_eq_positional (base : Nat) (ds : List Nat) :
    ofDigits base ds = Nat.ofDigits base ds.reverse := by
  rw [Nat.ofDigits_eq_foldr, List.foldr_reverse, ofDigits]
  simp only [Nat.cast_id, Nat.add_comm]

/-- The text of a number in digits, as a reader takes it. -/
def Denotes (s : List Char) (n : Nat) : Prop :=
  ∃ ds, DigitString s ds ∧ ds.length ≤ digitLimit ∧ Nat.ofDigits 10 ds.reverse = n

theorem natOfText?_eq_some_iff {s : List Char} {n : Nat} :
    natOfText? s = some n ↔ Denotes s n := by
  rw [natOfText?, Option.bind_eq_some_iff]
  constructor
  · rintro ⟨ds, hds, h⟩
    split at h
    · next hlimit =>
      refine ⟨ds, grouped_eq_some_iff.1 hds, hlimit, ?_⟩
      rw [← ofDigits_eq_positional]
      exact Option.some.inj h
    · cases h
  · rintro ⟨ds, hds, hlimit, rfl⟩
    refine ⟨ds, grouped_eq_some_iff.2 hds, ?_⟩
    rw [if_pos hlimit, ofDigits_eq_positional]

/-! ## Blanks and signs -/

theorem isBlank_of_digitValue {c : Char} {d : Nat} (h : digitValue c = some d) :
    isBlank c = false := by
  -- No script has its digits next to a blank.
  have hgaps : ∀ start ∈ digitZeros, 0x20 < start ∧ start + 10 ≤ 0x85 ∨
      0xA0 < start ∧ start + 10 ≤ 0x1680 ∨ 0x1680 < start ∧ start + 10 ≤ 0x2000 ∨
      0x3000 < start := by decide
  obtain ⟨start, hfind, -⟩ := Option.map_eq_some_iff.1 h
  have hgap := hgaps start (List.mem_of_find?_eq_some hfind)
  have hrange := List.find?_some hfind
  rw [decide_eq_true_eq] at hrange
  simp [isBlank]
  omega

/-- The marks that may stand in front of digits. -/
inductive IsSign : List Char → Prop
  | none : IsSign []
  | plus : IsSign ['+']
  | minus : IsSign ['-']

/-- A text with blanks around a sign and a number in digits. -/
def SpellsBehind (sign : List Char) (raw : Points) (n : Nat) : Prop :=
  ∃ before digits behind, raw = (before ++ (sign ++ digits) ++ behind).map Char.toNat ∧
    (∀ c ∈ before ++ behind, isBlank c = true) ∧ Denotes digits n

/-- A text spells a number without a minus sign in it. -/
def SpellsNatural (raw : Points) (n : Nat) : Prop :=
  SpellsBehind [] raw n ∨ SpellsBehind ['+'] raw n

/-- A text spells an integer, with either sign or none. -/
inductive SpellsInteger (raw : Points) : Int → Prop
  | natural {n : Nat} (h : SpellsNatural raw n) : SpellsInteger raw n
  | negative {n : Nat} (h : SpellsBehind ['-'] raw n) : SpellsInteger raw (-n)

section

variable {s : List Char} {n : Nat}

theorem Denotes.isBlank_eq_false (h : Denotes s n) : ∀ c ∈ s, isBlank c = false := by
  obtain ⟨ds, hds, -, -⟩ := h
  intro c hc
  rcases hds.eq_or c hc with rfl | ⟨d, hd⟩
  · rfl
  · exact isBlank_of_digitValue hd

theorem Denotes.splitSign_eq (h : Denotes s n) : splitSign s = (false, s) := by
  obtain ⟨ds, hds, -, -⟩ := h
  have habsent {c : Char} (hmark : c ≠ '_') (hnone : digitValue c = none) : c ∉ s := by
    intro hc
    rcases hds.eq_or c hc with heq | ⟨d, hd⟩
    · exact hmark heq
    · rw [hnone] at hd
      cases hd
  exact Uuid.splitSign_of_not_mem (habsent (by decide) (by decide))
    (habsent (by decide) (by decide))

end

theorem exists_splitSign (s : List Char) :
    ∃ sign rest, IsSign sign ∧ s = sign ++ rest ∧ splitSign s = (decide (sign = ['-']), rest) := by
  unfold splitSign
  split
  · next rest => exact ⟨['-'], rest, .minus, rfl, rfl⟩
  · next rest => exact ⟨['+'], rest, .plus, rfl, rfl⟩
  · exact ⟨[], s, .none, rfl, rfl⟩

theorem Denotes.splitSign_append {sign digits : List Char} {n : Nat} (hsign : IsSign sign)
    (hn : Denotes digits n) : splitSign (sign ++ digits) = (decide (sign = ['-']), digits) := by
  cases hsign with
  | none => exact hn.splitSign_eq
  | plus => rfl
  | minus => rfl

theorem spellsInteger_iff {raw : Points} {n : Int} :
    SpellsInteger raw n ↔ ∃ sign m, IsSign sign ∧ SpellsBehind sign raw m ∧
      n = applySign (decide (sign = ['-'])) m := by
  constructor
  · intro h
    cases h with
    | natural h =>
      rcases h with h | h
      · exact ⟨[], _, .none, h, rfl⟩
      · exact ⟨['+'], _, .plus, h, rfl⟩
    | negative h => exact ⟨['-'], _, .minus, h, rfl⟩
  · rintro ⟨sign, m, hsign, h, rfl⟩
    cases hsign with
    | none => exact .natural (Or.inl h)
    | plus => exact .natural (Or.inr h)
    | minus => exact .negative h

theorem readPoints?_integer_iff {raw : Points} {n : Int} :
    readPoints? integerOfText? raw = some n ↔ SpellsInteger raw n := by
  rw [readPoints?_eq_some_iff, spellsInteger_iff]
  constructor
  · rintro ⟨s, rfl, h⟩
    obtain ⟨before, behind, hs, hblank⟩ := exists_trim isBlank s
    obtain ⟨sign, digits, hsign, htrim, hsplit⟩ := exists_splitSign (trim isBlank s)
    rw [integerOfText?, hsplit] at h
    obtain ⟨m, hm, rfl⟩ := Option.map_eq_some_iff.1 h
    rw [htrim] at hs
    exact ⟨sign, m, hsign,
      ⟨before, digits, behind, congrArg _ hs, hblank, natOfText?_eq_some_iff.1 hm⟩, rfl⟩
  · rintro ⟨sign, m, hsign, ⟨before, digits, behind, rfl, hblank, hm⟩, rfl⟩
    rw [List.forall_mem_append] at hblank
    have hinner : ∀ c ∈ sign ++ digits, isBlank c = false := by
      refine List.forall_mem_append.2 ⟨?_, hm.isBlank_eq_false⟩
      cases hsign <;> simp [isBlank]
    refine ⟨_, rfl, ?_⟩
    rw [integerOfText?, trim_padded hblank.1 hblank.2, trim_of_forall hinner,
      hm.splitSign_append hsign]
    dsimp only
    rw [natOfText?_eq_some_iff.2 hm, Option.map_some]

theorem SpellsInteger.unique {raw : Points} {m n : Int} (hm : SpellsInteger raw m)
    (hn : SpellsInteger raw n) : m = n := by
  have hread := readPoints?_integer_iff.2 hm
  rw [readPoints?_integer_iff.2 hn] at hread
  exact (Option.some.inj hread).symm

theorem SpellsInteger.exists_natural {raw : Points} {n : Int} (h : SpellsInteger raw n)
    (hn : 1 ≤ n) : ∃ m : Nat, SpellsNatural raw m ∧ n = m := by
  cases h with
  | natural h => exact ⟨_, h, rfl⟩
  | negative h => omega

/-! ## Leading zeros -/

theorem digitString_of_digits {s : List Char} (hne : s ≠ []) (hs : ∀ c ∈ s, c.isDigit = true) :
    DigitString s (digitValues s) := by
  have hmark : '_' ∉ s := fun hmem => absurd (hs _ hmem) (by decide)
  rw [← grouped_eq_some_iff, grouped_of_not_mem hne hmark]
  exact mapM_eq_some_map fun c hc => digitValue_of_isDigit (hs c hc)

/-- The decimal text of a number with zeros in front of it, as long as there are not too many. -/
theorem denotes_decimal {k n : Nat} (h : k + (Nat.toDigits 10 n).length ≤ digitLimit) :
    Denotes (zeros k ++ Nat.toDigits 10 n) n := by
  have hdigits : ∀ c ∈ zeros k ++ Nat.toDigits 10 n, c.isDigit = true :=
    List.forall_mem_append.2
      ⟨fun _ hc => isDigit_of_mem_zeros hc, fun _ hc => isDigit_of_mem_toDigits hc⟩
  have hne : zeros k ++ Nat.toDigits 10 n ≠ [] :=
    List.append_ne_nil_of_right_ne_nil _ Nat.toDigits_ne_nil
  refine ⟨_, digitString_of_digits hne hdigits, ?_, ?_⟩
  · rw [digitValues, List.length_map, List.length_append, zeros, List.length_replicate]
    exact h
  · rw [← ofDigits_eq_positional, ofDigits_zeros_append, ofDigits_toDigits]

end Number

end Stockroom
