import Mathlib.Data.List.Infix
import Stockroom.Proofs.Uuid
import Stockroom.Text.Split
import Stockroom.Uuid.Strict

/-!
# One identifier, many spellings

The digits of an identifier in either case, with hyphens anywhere among them, in braces and after
`urn:uuid:`: all of that is read as the identifier. What a payload may spell is a part of it. The
reader of a path and a query accepts more than that, but nothing that it accepts is out of range.
-/

namespace Stockroom

open Number Text

/-! ## Words that are taken out -/

namespace Text

theorem trim_sublist {α : Type} (outer : α → Bool) (s : List α) : (trim outer s).Sublist s := by
  have h := (List.dropWhile_sublist outer (l := (s.dropWhile outer).reverse)).reverse
  rw [List.reverse_reverse] at h
  exact h.trans (List.dropWhile_sublist outer)

theorem isPrefixOf_append_singleton {α : Type} [BEq α] [LawfulBEq α] {word s : List α} {c : α}
    (hc : c ∉ word) : word.isPrefixOf (s ++ [c]) = word.isPrefixOf s := by
  rw [Bool.eq_iff_iff, List.isPrefixOf_iff_prefix, List.isPrefixOf_iff_prefix,
    List.prefix_concat_iff, or_iff_right]
  rintro rfl
  exact hc (by simp)

theorem replaceFrom_append_singleton {α : Type} [BEq α] [LawfulBEq α] {word : List α} {c : α}
    (hc : c ∉ word) (hne : word ≠ []) (new : List α) {skip : Nat} {s : List α}
    (hskip : skip ≤ s.length) :
    replaceFrom word new skip (s ++ [c]) = replaceFrom word new skip s ++ [c] := by
  fun_induction replaceFrom word new skip s with
  | case1 skip =>
    obtain rfl : skip = 0 := Nat.le_zero.1 hskip
    have hword : word.isPrefixOf [c] = false := by
      rw [← List.nil_append [c], isPrefixOf_append_singleton hc]
      cases word with
      | nil => exact absurd rfl hne
      | cons => rfl
    simp [replaceFrom, hword]
  | case2 skip x rest ih => exact ih (Nat.le_of_succ_le_succ hskip)
  | case3 x rest hword ih =>
    have hlength := (List.isPrefixOf_iff_prefix.1 hword).length_le
    rw [List.length_cons] at hlength
    rw [← isPrefixOf_append_singleton (c := c) hc, List.cons_append] at hword
    rw [List.cons_append, replaceFrom, if_pos hword, ih (by omega), List.append_assoc]
  | case4 x rest hword ih =>
    rw [← isPrefixOf_append_singleton (c := c) hc, List.cons_append] at hword
    rw [List.cons_append, replaceFrom, if_neg hword, ih (Nat.zero_le _), List.cons_append]

end Text

namespace Uuid

/-! ## Decorations -/

/-- A text without the words that may stand in it. -/
def unworded (s : List Char) : List Char := withoutWord "uuid:" (withoutWord "urn:" s)

theorem unworded_urn (s : List Char) : unworded (urn ++ s) = unworded s := by
  have hfirst : withoutWord "urn:" (urn ++ s) = "uuid:".toList ++ withoutWord "urn:" s := rfl
  rw [unworded, hfirst]
  rfl

theorem unworded_braces (s : List Char) :
    unworded (openBrace :: s ++ [closeBrace]) = openBrace :: unworded s ++ [closeBrace] := by
  have hword (rest : List Char) (hclose : closeBrace ∉ 'u' :: rest) (t : List Char) :
      replaceAll ('u' :: rest) [] (openBrace :: t ++ [closeBrace]) =
        openBrace :: replaceAll ('u' :: rest) [] t ++ [closeBrace] := by
    rw [List.cons_append, replaceAll_cons_of_ne (by decide), replaceAll,
      replaceFrom_append_singleton hclose (List.cons_ne_nil _ _) [] (Nat.zero_le _)]
    rfl
  have hurn := hword "rn:".toList (by decide) s
  have huuid := hword "uid:".toList (by decide) (withoutWord "urn:" s)
  exact (congrArg (withoutWord "uuid:") hurn).trans huuid

theorem bare_urn (s : List Char) : bare (urn ++ s) = bare s :=
  congrArg (fun t => (trim isBrace t).filter (· != '-')) (unworded_urn s)

theorem bare_braces (s : List Char) : bare (openBrace :: s ++ [closeBrace]) = bare s := by
  have htrim : trim isBrace ([openBrace] ++ unworded s ++ [closeBrace]) =
      trim isBrace (unworded s) :=
    trim_padded (List.forall_mem_singleton.2 rfl) (List.forall_mem_singleton.2 rfl)
  rw [List.singleton_append, ← unworded_braces] at htrim
  exact congrArg (List.filter (· != '-')) htrim

/-! ## Spellings -/

/-- The digits of an identifier in either case, with hyphens anywhere among them. Braces may stand
around a spelling, and `urn:uuid:` in front of it. -/
inductive Spelling (u : Uuid) : List Char → Prop where
  | digits {s : List Char} (h : (s.filter (· != '-')).map Char.toLower = u.digits) : Spelling u s
  | braces {s : List Char} (h : Spelling u s) : Spelling u (openBrace :: s ++ [closeBrace])
  | urn {s : List Char} (h : Spelling u s) : Spelling u (urn ++ s)

theorem Spelling.ofChars?_eq {u : Uuid} {s : List Char} (h : Spelling u s) :
    ofChars? s = some u := by
  induction h with
  | digits h => exact ofChars?_of_digits h
  | braces _ ih => rwa [ofChars?, bare_braces]
  | urn _ ih => rwa [ofChars?, bare_urn]

theorem spelling_text (u : Uuid) : Spelling u u.text.toList := by
  refine .digits ?_
  rw [text, String.toList_ofList]
  exact filter_hyphenate_digits u

/-! ## What a payload spells -/

theorem digits_ofDigits {s : List Char} {ds : List Nat} (hlength : s.length = 32)
    (h : s.mapM asciiHexDigitValue = some ds) :
    s.map Char.toLower = digits ⟨.ofNat 128 (ofDigits 16 ds)⟩ := by
  obtain ⟨hcount, -, hvalues⟩ := exists_of_mapM_eq_some h
  have hlt : ofDigits 16 ds < Nat.pow 16 32 := by
    rw [← hlength, ← hcount]
    refine ofDigits_lt ds fun d hd => ?_
    obtain ⟨c, -, hc⟩ := hvalues d hd
    exact hexDigitValue_lt (asciiHexDigitValue_eq_some_iff.1 hc).2
  rw [map_toLower_of_mapM h, hlength, digits, BitVec.toNat_ofNat, Nat.mod_eq_of_lt hlt]

theorem spelling_of_grouped {s : List Char} {ds : List Nat} (h : groupedDigits? s = some ds) :
    Spelling ⟨.ofNat 128 (ofDigits 16 ds)⟩ s := by
  unfold groupedDigits? at h
  split at h
  · next hgroups =>
    have hlength : (s.filter (· != '-')).length = 32 := by
      rw [← flatten_splitOn, List.length_flatten, hgroups]
      rfl
    exact .digits (digits_ofDigits hlength h)
  · cases h

theorem spelling_of_plain {s : List Char} {ds : List Nat} (h : plainDigits? s = some ds) :
    Spelling ⟨.ofNat 128 (ofDigits 16 ds)⟩ s := by
  unfold plainDigits? at h
  split at h
  · next hlength =>
    have hfilter : s.filter (· != '-') = s := by
      refine List.filter_eq_self.2 fun c hc => ?_
      obtain ⟨d, hd⟩ := (exists_of_mapM_eq_some h).2.1 c hc
      have := (plain_of_asciiHexDigitValue hd).2.2
      simp only [List.mem_cons, not_or] at this
      simp [this.1]
    refine .digits ?_
    rw [hfilter]
    exact digits_ofDigits hlength h
  · cases h

theorem spelling_of_unwrap {u : Uuid} {s : List Char} (h : Spelling u (unwrap s).2) :
    Spelling u s := by
  unfold unwrap at h
  split at h
  · next hbraces =>
    obtain ⟨hhead, hlast, hlength⟩ := hbraces
    obtain ⟨before, rfl⟩ := List.getLast?_eq_some_iff.1 hlast
    cases before with
    | nil => exact absurd hlength (by decide)
    | cons c inner =>
      obtain rfl : c = openBrace := Option.some.inj hhead
      have hinner : ((openBrace :: inner ++ [closeBrace]).drop 1).dropLast = inner := by
        rw [List.cons_append, List.drop_one, List.tail_cons, List.dropLast_concat]
      rw [hinner] at h
      exact .braces h
  · split at h
    · next hurn =>
      obtain ⟨rest, rfl⟩ := List.isPrefixOf_iff_prefix.1 hurn
      rw [List.drop_left] at h
      exact .urn h
    · exact h

/-- A payload spells an identifier in no other way than a path or a query may. -/
theorem spelling_of_ofStrictText {t : String} {u : Uuid} (h : ofStrictText t = .ok u) :
    Spelling u t.toList := by
  rw [ofStrictText, ofStrictChars] at h
  split at h
  · next ds hds =>
    cases h
    rcases Option.or_eq_some_iff.1 hds with hds | ⟨-, hds⟩
    · exact spelling_of_plain hds
    · exact spelling_of_unwrap (spelling_of_grouped hds)
  · cases h

theorem ofText?_of_ofStrictText {t : String} {u : Uuid} (h : ofStrictText t = .ok u) :
    ofText? t = some u :=
  (spelling_of_ofStrictText h).ofChars?_eq

/-! ## Range -/

theorem splitSign_sublist (s : List Char) : (splitSign s).2.Sublist s := by
  unfold splitSign
  split
  · exact List.sublist_cons_self _ _
  · exact List.sublist_cons_self _ _
  · exact List.Sublist.refl _

theorem dropBaseMark_sublist (s : List Char) : (dropBaseMark s).Sublist s := by
  unfold dropBaseMark
  split
  · split
    · split
      · exact .cons _ (.cons _ (.cons _ (.refl _)))
      · exact .cons _ (.cons _ (.refl _))
    · exact List.Sublist.refl _
  · exact List.Sublist.refl _

theorem splitSign_fst_of_not_mem {s : List Char} (h : '-' ∉ s) : (splitSign s).1 = false := by
  unfold splitSign
  split
  · exact absurd List.mem_cons_self h
  · rfl
  · rfl

theorem bounds_of_hexOfText? {s : List Char} {n : Int} (hminus : '-' ∉ s)
    (h : hexOfText? s = some n) : 0 ≤ n ∧ n.toNat < Nat.pow 16 s.length := by
  have h : (grouped hexDigitValue (dropBaseMark (splitSign (trim isBlank s)).2)).map
    (fun ds => applySign (splitSign (trim isBlank s)).1 (ofDigits 16 ds)) = some n := h
  obtain ⟨ds, hds, rfl⟩ := Option.map_eq_some_iff.1 h
  obtain ⟨hlength, hvalues⟩ := length_grouped_le hds
  have hsub := ((dropBaseMark_sublist _).trans (splitSign_sublist _)).trans (trim_sublist isBlank s)
  have hlt : ofDigits 16 ds < Nat.pow 16 s.length := by
    refine Nat.lt_of_lt_of_le (ofDigits_lt ds fun d hd => ?_)
      (Nat.pow_le_pow_right (by decide) (hlength.trans hsub.length_le))
    obtain ⟨c, hc⟩ := hvalues d hd
    exact hexDigitValue_lt hc
  rw [splitSign_fst_of_not_mem fun hmem => hminus ((trim_sublist isBlank s).subset hmem), applySign]
  exact ⟨Int.natCast_nonneg _, hlt⟩

theorem exists_ofChars? {s : List Char} {n : Int} (hlength : (bare s).length = 32)
    (h : hexOfText? (bare s) = some n) : ∃ u, ofChars? s = some u ∧ n = u.value.toNat := by
  have hminus : '-' ∉ bare s := by simp [bare]
  obtain ⟨hnonneg, hlt⟩ := bounds_of_hexOfText? hminus h
  rw [hlength] at hlt
  have hcount : n.toNat < count := hlt
  refine ⟨⟨.ofNat 128 n.toNat⟩, ?_, ?_⟩
  · rw [ofChars?, if_pos hlength, h, Option.bind_some, if_neg (by omega), ofNat?, if_pos hcount]
  · have hvalue : (BitVec.ofNat 128 n.toNat).toNat = n.toNat :=
      (BitVec.toNat_ofNat _ _).trans (Nat.mod_eq_of_lt hcount)
    rw [hvalue, Int.toNat_of_nonneg hnonneg]

end Uuid

end Stockroom
