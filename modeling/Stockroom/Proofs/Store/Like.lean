import Mathlib.Data.List.Basic
import Stockroom.Proofs.Store.Pattern

/-!
# Names that contain a term

A term finds the names that contain what is read of it, and every name finds itself. A text is not
read behind U+0000, so a term with one in it loses the percent sign at the end of its pattern. Of a
plain text all is read, and as it is.
-/

namespace Stockroom.Like

open Text

/-! ## What is read of a pattern -/

theorem readAs_eq_iff {m n : Nat} (hm : m < replacement) : readAs n = m ↔ n = m := by
  unfold readAs
  split
  · unfold replacement at *
    omega
  · rfl

theorem map_readAs_escapePoint (n : Nat) :
    (escapePoint n).map readAs = escapePoint (readAs n) := by
  have hpercent : readAs n = percent ↔ n = percent := readAs_eq_iff (by decide)
  have hunderscore : readAs n = underscore ↔ n = underscore := readAs_eq_iff (by decide)
  have hslash : readAs n = slash ↔ n = slash := readAs_eq_iff (by decide)
  simp only [escapePoint, hpercent, hunderscore, hslash]
  split
  · rfl
  · rfl

theorem map_readAs_escape (term : Points) :
    (escape term).map readAs = escape (term.map readAs) := by
  rw [escape, List.map_flatMap, escape, List.flatMap_map]
  exact List.flatMap_congr fun n _ => map_readAs_escapePoint n

theorem visible_cons {n : Nat} (hn : n ≠ 0) (p : Points) : visible (n :: p) = n :: visible p :=
  List.takeWhile_cons_of_pos (bne_iff_ne.2 hn)

theorem visible_escapePoint_append {n : Nat} (hn : n ≠ 0) (rest : Points) :
    visible (escapePoint n ++ rest) = escapePoint n ++ visible rest := by
  unfold escapePoint
  split
  · show visible (slash :: n :: rest) = slash :: n :: visible rest
    rw [visible_cons (by decide), visible_cons hn]
  · exact visible_cons hn rest

theorem visible_escape_append (term rest : Points) :
    visible (escape term ++ rest) =
      escape (visible term) ++ if 0 ∈ term then [] else visible rest := by
  induction term with
  | nil => rfl
  | cons n term ih =>
    by_cases hn : n = 0
    · subst hn
      rw [if_pos List.mem_cons_self]
      rfl
    · have hmem : 0 ∈ n :: term ↔ 0 ∈ term := by simp [Ne.symm hn]
      simp only [hmem]
      rw [escape_cons, List.append_assoc, visible_escapePoint_append hn, ih, visible_cons hn,
        escape_cons, List.append_assoc]

theorem seen_containing (term : Points) :
    seen (containing term) =
      percent :: (escape (seen term) ++ if 0 ∈ term then [] else [percent]) := by
  have hvisible : visible (containing term) =
      percent :: (escape (visible term) ++ if 0 ∈ term then [] else [percent]) := by
    rw [containing, List.cons_append, visible_cons (by decide), visible_escape_append]
    rfl
  rw [seen, hvisible, List.map_cons, List.map_append, map_readAs_escape, seen]
  split <;> rfl

/-! ## What a term finds -/

section

variable {term name : Points}

theorem nameMatches_iff_contains (hterm : 0 ∉ term) :
    nameMatches term name = true ↔ Contains (seen term) (seen name) := by
  rw [nameMatches, matchPoints_iff, seen_containing, if_neg hterm]
  exact matches_containing_iff

/-- A term with U+0000 in it finds the names that end with what is read of it. -/
theorem nameMatches_iff_ends (hterm : 0 ∈ term) :
    nameMatches term name = true ↔
      (seen term).map lowerCase <:+ (seen name).map lowerCase := by
  rw [nameMatches, matchPoints_iff, seen_containing, if_pos hterm, matches_percent_iff]
  constructor
  · rintro ⟨q, hq, h⟩
    obtain ⟨front, rest, rfl, hfront, hrest⟩ := matches_escape_append.1 h
    rw [matches_nil_iff.1 hrest, List.append_nil] at hq
    exact hfront ▸ hq.map lowerCase
  · rintro ⟨before, h⟩
    obtain ⟨run, front, hname, -, hfront⟩ := List.map_eq_append_iff.1 h.symm
    exact ⟨front, ⟨run, hname.symm⟩,
      matches_escape_append.2 ⟨front, [], (List.append_nil front).symm, hfront.symm, .nil⟩⟩

theorem nameMatches_self (name : Points) : nameMatches name name = true := by
  by_cases hzero : 0 ∈ name
  · exact (nameMatches_iff_ends hzero).2 (List.suffix_refl _)
  · exact (nameMatches_iff_contains hzero).2 (List.infix_refl _)

end

/-! ## Plain texts -/

/-- No character of a plain text ends it early or is read as another one. -/
def IsPlain (p : Points) : Prop := ∀ n ∈ p, n ≠ 0 ∧ n ≠ 0xFFFE ∧ n ≠ 0xFFFF

instance (p : Points) : Decidable (IsPlain p) := List.decidableBAll _ _

theorem IsPlain.zero_not_mem {p : Points} (hp : IsPlain p) : 0 ∉ p := fun h => (hp 0 h).1 rfl

theorem visible_of_not_mem {p : Points} (hp : 0 ∉ p) : visible p = p := by
  rw [visible, List.takeWhile_eq_self_iff]
  intro n hn
  rw [bne_iff_ne]
  rintro rfl
  exact hp hn

theorem IsPlain.seen_eq {p : Points} (hp : IsPlain p) : seen p = p := by
  have hread : ∀ n ∈ p, readAs n = n := by
    intro n hn
    have hplain := (hp n hn).2
    rw [readAs, if_neg (by omega)]
  rw [seen, visible_of_not_mem hp.zero_not_mem, List.map_congr_left hread, List.map_id']

theorem IsPlain.nameMatches_iff {term name : Points} (hterm : IsPlain term)
    (hname : IsPlain name) : nameMatches term name = true ↔ Contains term name := by
  rw [nameMatches_iff_contains hterm.zero_not_mem, hterm.seen_eq, hname.seen_eq]

/-- Put between two percent signs, with a slash before each character that has a meaning, a term is
a pattern of exactly the texts that contain it, whatever the two hold. What the store finds are the
names that the pattern stands for, both as the store reads them. -/
theorem term_matched_literally (term name : Points) :
    (Matches (containing term) name ↔ Contains term name) ∧
      (nameMatches term name = true ↔ Matches (seen (containing term)) (seen name)) ∧
      (IsPlain term → IsPlain name → (nameMatches term name = true ↔ Contains term name)) :=
  ⟨matches_containing_iff, matchPoints_iff, fun hterm hname => hterm.nameMatches_iff hname⟩

theorem marks_matched_literally :
    nameMatches "a_%/" "50% A_%//" = true ∧ ¬ Matches (containing "a_%/") "ab%/" ∧
      nameMatches "a_%/" "ab%/" = false := by
  have hmarks := term_matched_literally "a_%/" "50% A_%//"
  have hother := term_matched_literally "a_%/" "ab%/"
  have hfound : Contains "a_%/" "50% A_%//" := ⟨"50% ", "/", by decide⟩
  have hmissing : ¬ Contains "a_%/" "ab%/" := by decide
  refine ⟨(hmarks.2.2 (by decide) (by decide)).2 hfound, fun h => hmissing (hother.1.1 h), ?_⟩
  exact Bool.eq_false_iff.2 fun h => hmissing ((hother.2.2 (by decide) (by decide)).1 h)

end Stockroom.Like
