import Mathlib.Data.List.TakeWhile
import Stockroom.Store.Like

/-!
# What a pattern stands for

The meaning of a pattern is a relation, apart from any way to match: a percent sign stands for any
run of characters, an underscore for any one, a slash for the character behind it, and every other
character for itself, in both cases of the letters of ASCII. The pattern of a term stands for the
texts that contain the term, whatever characters the two hold. The matcher decides the relation for
what the store reads of a pattern and of a text.
-/

namespace Stockroom.Like

open Text

/-- The lower case of a letter of ASCII. Every other character is its own. -/
def lowerCase (n : Nat) : Nat := if 0x41 ≤ n ∧ n ≤ 0x5A then n + 0x20 else n

/-- A name contains a term if the term stands in it as it is, but for the case of ASCII letters. -/
def Contains (term name : Points) : Prop := term.map lowerCase <:+: name.map lowerCase

instance (term name : Points) : Decidable (Contains term name) :=
  inferInstanceAs (Decidable (_ <:+: _))

/-- A character with a meaning in a pattern. -/
def IsMark (n : Nat) : Prop := n = percent ∨ n = underscore ∨ n = slash

/-- A pattern stands for a text. One that ends with a slash stands for none. -/
inductive Matches : Points → Points → Prop
  | nil : Matches [] []
  | anyRun (run : Points) {pattern p : Points} (h : Matches pattern p) :
      Matches (percent :: pattern) (run ++ p)
  | anyOne (n : Nat) {pattern p : Points} (h : Matches pattern p) :
      Matches (underscore :: pattern) (n :: p)
  | escaped {m n : Nat} {pattern p : Points} (hmn : lowerCase m = lowerCase n)
      (h : Matches pattern p) : Matches (slash :: m :: pattern) (n :: p)
  | itself {m n : Nat} {pattern p : Points} (hm : ¬ IsMark m) (hmn : lowerCase m = lowerCase n)
      (h : Matches pattern p) : Matches (m :: pattern) (n :: p)

/-! ## One element of a pattern -/

section

variable {m : Nat} {pattern p : Points}

theorem matches_nil_iff : Matches [] p ↔ p = [] := by
  constructor
  · rintro ⟨⟩
    rfl
  · rintro rfl
    exact .nil

/-- What the first character of a pattern is decides what the pattern stands for. -/
theorem Matches.of_cons (h : Matches (m :: pattern) p) :
    (m = percent ∧ ∃ q, q <:+ p ∧ Matches pattern q) ∨
      (m = underscore ∧ ∃ n q, p = n :: q ∧ Matches pattern q) ∨
      (m = slash ∧ ∃ c rest n q, pattern = c :: rest ∧ p = n :: q ∧
        lowerCase c = lowerCase n ∧ Matches rest q) ∨
      (¬ IsMark m ∧ ∃ n q, p = n :: q ∧ lowerCase m = lowerCase n ∧ Matches pattern q) := by
  cases h with
  | anyRun run h => exact Or.inl ⟨rfl, _, List.suffix_append run _, h⟩
  | anyOne n h => exact Or.inr (Or.inl ⟨rfl, n, _, rfl, h⟩)
  | escaped hmn h => exact Or.inr (Or.inr (Or.inl ⟨rfl, _, _, _, _, rfl, rfl, hmn, h⟩))
  | itself hm hmn h => exact Or.inr (Or.inr (Or.inr ⟨hm, _, _, rfl, hmn, h⟩))

theorem matches_percent_iff :
    Matches (percent :: pattern) p ↔ ∃ q, q <:+ p ∧ Matches pattern q := by
  constructor
  · intro h
    rcases h.of_cons with ⟨-, h⟩ | ⟨hm, -⟩ | ⟨hm, -⟩ | ⟨hm, -⟩
    · exact h
    · exact absurd hm (by decide)
    · exact absurd hm (by decide)
    · exact absurd (Or.inl rfl) hm
  · rintro ⟨q, ⟨run, rfl⟩, h⟩
    exact .anyRun run h

theorem matches_underscore_iff :
    Matches (underscore :: pattern) p ↔ ∃ n q, p = n :: q ∧ Matches pattern q := by
  constructor
  · intro h
    rcases h.of_cons with ⟨hm, -⟩ | ⟨-, h⟩ | ⟨hm, -⟩ | ⟨hm, -⟩
    · exact absurd hm (by decide)
    · exact h
    · exact absurd hm (by decide)
    · exact absurd (Or.inr (Or.inl rfl)) hm
  · rintro ⟨n, q, rfl, h⟩
    exact .anyOne n h

theorem matches_slash_iff :
    Matches (slash :: pattern) p ↔ ∃ m rest n q, pattern = m :: rest ∧ p = n :: q ∧
      lowerCase m = lowerCase n ∧ Matches rest q := by
  constructor
  · intro h
    rcases h.of_cons with ⟨hm, -⟩ | ⟨hm, -⟩ | ⟨-, h⟩ | ⟨hm, -⟩
    · exact absurd hm (by decide)
    · exact absurd hm (by decide)
    · exact h
    · exact absurd (Or.inr (Or.inr rfl)) hm
  · rintro ⟨m, rest, n, q, rfl, rfl, hmn, h⟩
    exact .escaped hmn h

theorem matches_cons_iff (hm : ¬ IsMark m) :
    Matches (m :: pattern) p ↔
      ∃ n q, p = n :: q ∧ lowerCase m = lowerCase n ∧ Matches pattern q := by
  constructor
  · intro h
    rcases h.of_cons with ⟨hmark, -⟩ | ⟨hmark, -⟩ | ⟨hmark, -⟩ | ⟨-, h⟩
    · exact absurd (Or.inl hmark) hm
    · exact absurd (Or.inr (Or.inl hmark)) hm
    · exact absurd (Or.inr (Or.inr hmark)) hm
    · exact h
  · rintro ⟨n, q, rfl, hmn, h⟩
    exact .itself hm hmn h

end

/-! ## The pattern of a term -/

section

variable {term pattern p : Points}

theorem matches_escapePoint_append {m : Nat} :
    Matches (escapePoint m ++ pattern) p ↔
      ∃ n q, p = n :: q ∧ lowerCase m = lowerCase n ∧ Matches pattern q := by
  unfold escapePoint
  split
  · show Matches (slash :: m :: pattern) p ↔ _
    rw [matches_slash_iff]
    constructor
    · rintro ⟨m, rest, n, q, hcons, hp, hmn, h⟩
      obtain ⟨rfl, rfl⟩ := List.cons.inj hcons
      exact ⟨n, q, hp, hmn, h⟩
    · rintro ⟨n, q, hp, hmn, h⟩
      exact ⟨m, pattern, n, q, rfl, hp, hmn, h⟩
  · next hm => exact matches_cons_iff hm

theorem escape_cons (n : Nat) (term : Points) :
    escape (n :: term) = escapePoint n ++ escape term := List.flatMap_cons

theorem matches_escape_append :
    Matches (escape term ++ pattern) p ↔
      ∃ front q, p = front ++ q ∧ term.map lowerCase = front.map lowerCase ∧
        Matches pattern q := by
  induction term generalizing p with
  | nil =>
    constructor
    · exact fun h => ⟨[], p, rfl, rfl, h⟩
    · rintro ⟨front, q, rfl, hfront, h⟩
      rw [List.map_eq_nil_iff.1 hfront.symm]
      exact h
  | cons m term ih =>
    rw [escape_cons, List.append_assoc, matches_escapePoint_append]
    constructor
    · rintro ⟨n, rest, rfl, hmn, h⟩
      obtain ⟨front, q, rfl, hfront, h⟩ := ih.1 h
      refine ⟨n :: front, q, rfl, ?_, h⟩
      rw [List.map_cons, List.map_cons, hmn, hfront]
    · rintro ⟨front, q, rfl, hfront, h⟩
      obtain ⟨n, front, rfl, hmn, hrest⟩ := List.map_eq_cons_iff.1 hfront.symm
      exact ⟨n, front ++ q, rfl, hmn.symm, ih.2 ⟨front, q, rfl, hrest.symm, h⟩⟩

theorem matches_percent (p : Points) : Matches [percent] p :=
  matches_percent_iff.2 ⟨[], List.nil_suffix, .nil⟩

theorem contains_iff {name : Points} :
    Contains term name ↔
      ∃ before front after, name = before ++ (front ++ after) ∧
        term.map lowerCase = front.map lowerCase := by
  constructor
  · rintro ⟨before, after, h⟩
    rw [List.append_assoc] at h
    obtain ⟨before, rest, rfl, -, hrest⟩ := List.map_eq_append_iff.1 h.symm
    obtain ⟨front, after, rfl, hfront, -⟩ := List.map_eq_append_iff.1 hrest
    exact ⟨before, front, after, rfl, hfront.symm⟩
  · rintro ⟨before, front, after, rfl, hfront⟩
    refine ⟨before.map lowerCase, after.map lowerCase, ?_⟩
    rw [hfront, List.map_append, List.map_append, List.append_assoc]

theorem matches_containing_iff {name : Points} :
    Matches (containing term) name ↔ Contains term name := by
  rw [containing, List.cons_append, matches_percent_iff, contains_iff]
  constructor
  · rintro ⟨q, ⟨before, rfl⟩, h⟩
    obtain ⟨front, after, rfl, hfront, -⟩ := matches_escape_append.1 h
    exact ⟨before, front, after, rfl, hfront⟩
  · rintro ⟨before, front, after, rfl, hfront⟩
    refine ⟨front ++ after, List.suffix_append before _, ?_⟩
    exact matches_escape_append.2 ⟨front, after, rfl, hfront, matches_percent after⟩

end

/-! ## The matcher -/

theorem anySuffix_iff {test : Points → Bool} {p : Points} :
    anySuffix test p = true ↔ ∃ q, q <:+ p ∧ test q = true := by
  induction p with
  | nil => simp [anySuffix]
  | cons n p ih =>
    rw [anySuffix, Bool.or_eq_true, ih]
    constructor
    · rintro (h | ⟨q, hq, h⟩)
      · exact ⟨n :: p, List.suffix_refl _, h⟩
      · exact ⟨q, hq.trans (List.suffix_cons n p), h⟩
    · rintro ⟨q, hq, h⟩
      rcases List.suffix_cons_iff.1 hq with rfl | hq
      · exact Or.inl h
      · exact Or.inr ⟨q, hq, h⟩

theorem lowerCase_eq_iff {m n : Nat} (hm : m < 0x41 ∨ 0x5A < m ∧ m < 0x61) :
    lowerCase n = m ↔ n = m := by
  unfold lowerCase
  split
  · omega
  · rfl

theorem isMark_lowerCase_iff {n : Nat} : IsMark (lowerCase n) ↔ IsMark n := by
  have hpercent : lowerCase n = percent ↔ n = percent := lowerCase_eq_iff (by decide)
  have hunderscore : lowerCase n = underscore ↔ n = underscore := lowerCase_eq_iff (by decide)
  have hslash : lowerCase n = slash ↔ n = slash := lowerCase_eq_iff (by decide)
  rw [IsMark, hpercent, hunderscore, hslash, IsMark]

theorem tokens?_cons {n : Nat} (hn : n ≠ slash) (rest : Points) :
    tokens? (n :: rest) = (tokens? rest).map (token n :: ·) := by
  cases rest with
  | nil => exact if_neg hn
  | cons m rest => rw [tokens?, if_neg hn]

/-- A pattern and a text as they are matched, both in lower case. -/
def matchLower (pattern p : Points) : Bool :=
  (tokens? (pattern.map lowerCase)).any (matchTokens · (p.map lowerCase))

section

variable {o : Option (List Token)} {p : Points}

theorem any_anyRun_iff :
    (o.map (Token.anyRun :: ·)).any (matchTokens · (p.map lowerCase)) = true ↔
      ∃ q, q <:+ p ∧ o.any (matchTokens · (q.map lowerCase)) = true := by
  cases o with
  | none => simp
  | some ts =>
    rw [Option.map_some, Option.any_some, matchTokens, anySuffix_iff]
    constructor
    · rintro ⟨q, hq, h⟩
      obtain ⟨run, hrun⟩ := hq
      obtain ⟨run, q, rfl, -, rfl⟩ := List.map_eq_append_iff.1 hrun.symm
      exact ⟨q, List.suffix_append run q, h⟩
    · rintro ⟨q, hq, h⟩
      exact ⟨q.map lowerCase, hq.map lowerCase, h⟩

theorem any_anyOne_iff :
    (o.map (Token.anyOne :: ·)).any (matchTokens · (p.map lowerCase)) = true ↔
      ∃ n q, p = n :: q ∧ o.any (matchTokens · (q.map lowerCase)) = true := by
  cases o with
  | none => simp
  | some ts =>
    cases p with
    | nil => simp [matchTokens]
    | cons n q =>
      rw [Option.map_some, Option.any_some, List.map_cons, matchTokens]
      constructor
      · exact fun h => ⟨n, q, rfl, h⟩
      · rintro ⟨_, _, ⟨rfl, rfl⟩, h⟩
        exact h

theorem any_exactly_iff {m : Nat} :
    (o.map (Token.exactly m :: ·)).any (matchTokens · (p.map lowerCase)) = true ↔
      ∃ n q, p = n :: q ∧ m = lowerCase n ∧ o.any (matchTokens · (q.map lowerCase)) = true := by
  cases o with
  | none => simp
  | some ts =>
    cases p with
    | nil => simp [matchTokens]
    | cons n q =>
      rw [Option.map_some, Option.any_some, List.map_cons, matchTokens, Bool.and_eq_true,
        beq_iff_eq]
      constructor
      · rintro ⟨hmn, h⟩
        exact ⟨n, q, rfl, hmn.symm, h⟩
      · rintro ⟨_, _, ⟨rfl, rfl⟩, hmn, h⟩
        exact ⟨hmn.symm, h⟩

end

theorem matchLower_cons_iff {n : Nat} {rest : Points} (hn : n ≠ slash)
    (ih : ∀ q, matchLower rest q = true ↔ Matches rest q) (p : Points) :
    matchLower (n :: rest) p = true ↔ Matches (n :: rest) p := by
  have hslash : lowerCase n ≠ slash := mt (lowerCase_eq_iff (by decide)).1 hn
  unfold matchLower at ih ⊢
  rw [List.map_cons, tokens?_cons hslash]
  by_cases hpercent : n = percent
  · subst hpercent
    show ((tokens? _).map (Token.anyRun :: ·)).any _ = true ↔ _
    rw [any_anyRun_iff, matches_percent_iff]
    simp only [ih]
  by_cases hunderscore : n = underscore
  · subst hunderscore
    show ((tokens? _).map (Token.anyOne :: ·)).any _ = true ↔ _
    rw [any_anyOne_iff, matches_underscore_iff]
    simp only [ih]
  · have hmark : ¬ IsMark n := not_or.2 ⟨hpercent, not_or.2 ⟨hunderscore, hn⟩⟩
    have hlower : ¬ IsMark (lowerCase n) := mt isMark_lowerCase_iff.1 hmark
    simp only [IsMark, not_or] at hlower
    rw [token, if_neg hlower.1, if_neg hlower.2.1, any_exactly_iff, matches_cons_iff hmark]
    simp only [ih]

theorem matchLower_iff {pattern p : Points} : matchLower pattern p = true ↔ Matches pattern p := by
  induction pattern using tokens?.induct generalizing p with
  | case1 =>
    show (p.map lowerCase).isEmpty = true ↔ _
    rw [List.isEmpty_iff, List.map_eq_nil_iff, matches_nil_iff]
  | case2 =>
    refine ⟨nofun, fun h => ?_⟩
    obtain ⟨_, _, _, _, hcons, -⟩ := matches_slash_iff.1 h
    cases hcons
  | case3 n hn =>
    refine matchLower_cons_iff hn (fun q => ?_) p
    show (q.map lowerCase).isEmpty = true ↔ _
    rw [List.isEmpty_iff, List.map_eq_nil_iff, matches_nil_iff]
  | case4 m rest ih =>
    show ((tokens? (rest.map lowerCase)).map (Token.exactly (lowerCase m) :: ·)).any _ = true ↔ _
    rw [any_exactly_iff, matches_slash_iff]
    constructor
    · rintro ⟨n, q, rfl, hmn, h⟩
      exact ⟨m, rest, n, q, rfl, rfl, hmn, ih.1 h⟩
    · rintro ⟨_, _, n, q, hcons, rfl, hmn, h⟩
      obtain ⟨rfl, rfl⟩ := List.cons.inj hcons
      exact ⟨n, q, rfl, hmn, ih.2 h⟩
  | case5 n m rest hn ih => exact matchLower_cons_iff hn (fun _ => ih) p

/-! ## What the store reads -/

/-- The character that the store takes a character for. -/
def readAs (n : Nat) : Nat := if n = 0xFFFE ∨ n = 0xFFFF then replacement else n

/-- What the store reads of a text: the front of it up to the first U+0000, where the two characters
behind U+FFFD are taken for it. -/
def seen (p : Points) : Points := (visible p).map readAs

theorem foldPoint_eq (n : Nat) : foldPoint n = lowerCase (readAs n) := by
  unfold foldPoint readAs
  split
  · rfl
  · rfl

/-- A character with a meaning stays what it is in lower case, and nothing else becomes one. -/
theorem foldPoint_eq_iff {m n : Nat} (hm : m < 0x41 ∨ 0x5A < m ∧ m < 0x61) :
    foldPoint n = m ↔ n = m := by
  unfold foldPoint replacement
  split
  · omega
  split
  · omega
  · rfl

theorem visible_fold (p : Points) : visible (fold p) = (seen p).map lowerCase := by
  have hzero (n : Nat) : (foldPoint n != 0) = (n != 0) := by
    rw [Bool.eq_iff_iff, bne_iff_ne, bne_iff_ne, ne_eq, ne_eq, foldPoint_eq_iff (by decide)]
  have hfold : foldPoint = lowerCase ∘ readAs := funext foldPoint_eq
  have hvisible : (· != 0) ∘ foldPoint = fun n : Nat => n != 0 := funext hzero
  rw [visible, fold, List.takeWhile_map, hvisible, hfold, seen, visible, List.map_map]

theorem matchPoints_iff {pattern p : Points} :
    matchPoints pattern p = true ↔ Matches (seen pattern) (seen p) := by
  rw [← matchLower_iff, matchLower, matchPoints, visible_fold, visible_fold]
  cases tokens? ((seen pattern).map lowerCase) <;> rfl

end Stockroom.Like
