import Stockroom.Uuid

/-!
# The spellings of an identifier

The canonical text is one of the spellings that `ofText?` reads, and it reads back as its
identifier. So no two identifiers share a text. No spelling has a slash in it, so each of them can
stand as one segment of a path.
-/

namespace Stockroom

/-! ## Characters that stay -/

namespace Text

theorem mem_dropWhile {α : Type} {outer : α → Bool} {s : List α} {c : α} (hc : outer c = false)
    (h : c ∈ s) : c ∈ s.dropWhile outer := by
  rw [← List.takeWhile_append_dropWhile (p := outer) (l := s), List.mem_append] at h
  rcases h with h | h
  · have hall := List.all_eq_true.1 (List.all_takeWhile (l := s) (p := outer)) c h
    simp [hc] at hall
  · exact h

theorem mem_trim {α : Type} {outer : α → Bool} {s : List α} {c : α} (hc : outer c = false)
    (h : c ∈ s) : c ∈ trim outer s := by
  unfold trim
  rw [List.mem_reverse]
  exact mem_dropWhile hc (List.mem_reverse.2 (mem_dropWhile hc h))

theorem mem_replaceFrom {α : Type} [BEq α] [LawfulBEq α] {first c : α} {word new s : List α}
    {skip : Nat} (hskip : ∀ x ∈ s.take skip, x ∈ first :: word) (hc : c ∉ first :: word)
    (h : c ∈ s) : c ∈ replaceFrom (first :: word) new skip s := by
  fun_induction replaceFrom (first :: word) new skip s with
  | case1 => exact absurd h List.not_mem_nil
  | case2 skip x rest ih =>
    rw [List.take_succ_cons, List.forall_mem_cons] at hskip
    have hne : c ≠ x := fun heq => hc (heq ▸ hskip.1)
    exact ih hskip.2 (List.mem_of_ne_of_mem hne h)
  | case3 x rest hword ih =>
    obtain ⟨tail, htail⟩ := List.isPrefixOf_iff_prefix.1 hword
    rw [List.cons_append, List.cons.injEq] at htail
    obtain ⟨rfl, rfl⟩ := htail
    have hne : c ≠ first := fun heq => hc (heq ▸ List.mem_cons_self)
    refine List.mem_append_right _ (ih ?_ (List.mem_of_ne_of_mem hne h))
    intro x hx
    simp at hx
    exact List.mem_cons_of_mem _ hx
  | case4 x rest hword ih =>
    rcases List.mem_cons.1 h with rfl | h
    · exact List.mem_cons_self
    · exact List.mem_cons_of_mem _ (ih (by simp) h)

end Text

theorem Number.grouped_eq_none_of_mem {value : Char → Option Nat} {s : List Char} {c : Char}
    (h : c ∈ s) (hc : value c = none) (hmark : c ≠ '_') : grouped value s = none := by
  fun_induction grouped value s with
  | case1 => exact absurd h List.not_mem_nil
  | case2 x =>
    rw [← List.mem_singleton.1 h, hc]
    rfl
  | case3 x rest ih =>
    simp only [List.mem_cons] at h
    rcases h with rfl | rfl | h
    · rw [hc]
      rfl
    · exact absurd rfl hmark
    · rw [ih h]
      cases value x <;> rfl
  | case4 x rest hone hnext ih =>
    rcases List.mem_cons.1 h with rfl | h
    · rw [hc]
      rfl
    · rw [ih h]
      cases value x <;> rfl

namespace Uuid

open Number Text

/-! ## Groups -/

theorem groups_append (ds : List Char) :
    ds.take 8 ++ ((ds.drop 8).take 4 ++ ((ds.drop 12).take 4 ++ ((ds.drop 16).take 4 ++
      ds.drop 20))) = ds := by
  have join : ∀ n k, (ds.drop n).take k ++ ds.drop (n + k) = ds.drop n := by
    intro n k
    rw [← List.drop_drop, List.take_append_drop]
  rw [join 16 4, join 12 4, join 8 4]
  exact join 0 8

theorem filter_hyphenate (ds : List Char) :
    (hyphenate ds).filter (· != '-') = ds.filter (· != '-') := by
  conv => rhs; rw [← groups_append ds]
  simp [hyphenate]

/-! ## Reading digits -/

theorem plain_of_asciiHexDigitValue {c : Char} {d : Nat} (h : asciiHexDigitValue c = some d) :
    isBlank c = false ∧ isBrace c = false ∧ c ∉ ['-', '+', '_', 'x', 'X', 'u'] := by
  have hall : ∀ n < 128, (asciiHexDigitValue (Char.ofNat n)).isSome = true →
      isBlank (Char.ofNat n) = false ∧ isBrace (Char.ofNat n) = false ∧
        Char.ofNat n ∉ ['-', '+', '_', 'x', 'X', 'u'] := by
    decide +kernel
  refine forall_ascii (P := fun c => (asciiHexDigitValue c).isSome = true → isBlank c = false ∧
    isBrace c = false ∧ c ∉ ['-', '+', '_', 'x', 'X', 'u']) hall
    (asciiHexDigitValue_eq_some_iff.1 h).1 ?_
  rw [h]
  rfl

theorem dropBaseMark_of_not_mem {s : List Char} (hlower : 'x' ∉ s) (hupper : 'X' ∉ s) :
    dropBaseMark s = s := by
  unfold dropBaseMark
  split
  · rw [if_neg]
    rintro ⟨-, rfl | rfl⟩
    · exact hlower (by simp)
    · exact hupper (by simp)
  · rfl

theorem splitSign_of_not_mem {s : List Char} (hminus : '-' ∉ s) (hplus : '+' ∉ s) :
    splitSign s = (false, s) := by
  unfold splitSign
  split
  · exact absurd List.mem_cons_self hminus
  · exact absurd List.mem_cons_self hplus
  · rfl

theorem hexOfText?_of_mapM {s : List Char} {ds : List Nat} (hne : s ≠ [])
    (h : s.mapM asciiHexDigitValue = some ds) :
    hexOfText? s = some ((ofDigits 16 ds : Nat) : Int) := by
  have hplain (c : Char) (hc : c ∈ s) :
      isBlank c = false ∧ isBrace c = false ∧ c ∉ ['-', '+', '_', 'x', 'X', 'u'] := by
    obtain ⟨d, hd⟩ := (exists_of_mapM_eq_some h).2.1 c hc
    exact plain_of_asciiHexDigitValue hd
  have habsent (c : Char) (hc : c ∈ ['-', '+', '_', 'x', 'X', 'u']) : c ∉ s :=
    fun hmem => (hplain c hmem).2.2 hc
  unfold hexOfText?
  rw [trim_of_forall fun c hc => (hplain c hc).1,
    splitSign_of_not_mem (habsent _ (by simp)) (habsent _ (by simp))]
  dsimp only
  rw [dropBaseMark_of_not_mem (habsent _ (by simp)) (habsent _ (by simp)),
    grouped_of_not_mem hne (habsent _ (by simp)), mapM_hexDigitValue h]
  rfl

theorem bare_of_digits {s : List Char} {ds : List Nat}
    (h : (s.filter (· != '-')).mapM asciiHexDigitValue = some ds) :
    bare s = s.filter (· != '-') := by
  have hchars (c : Char) (hc : c ∈ s) : isBrace c = false ∧ c ≠ 'u' := by
    by_cases hhyphen : c = '-'
    · rw [hhyphen]
      decide
    · have hmem : c ∈ s.filter (· != '-') := List.mem_filter.2 ⟨hc, by simpa using hhyphen⟩
      obtain ⟨d, hd⟩ := (exists_of_mapM_eq_some h).2.1 c hmem
      have hplain := plain_of_asciiHexDigitValue hd
      exact ⟨hplain.2.1, fun hu => hplain.2.2 (by simp [hu])⟩
  have hmark : 'u' ∉ s := fun hmem => (hchars 'u' hmem).2 rfl
  have hurn : withoutWord "urn:" s = s := replaceAll_of_not_mem _ [] hmark
  have huuid : withoutWord "uuid:" s = s := replaceAll_of_not_mem _ [] hmark
  rw [bare, hurn, huuid, trim_of_forall fun c hc => (hchars c hc).1]

theorem ofChars?_of_digits {u : Uuid} {s : List Char}
    (h : (s.filter (· != '-')).map Char.toLower = u.digits) : ofChars? s = some u := by
  have hcount : u.value.toNat < count := u.value.isLt
  have hlt : u.value.toNat < Nat.pow 16 32 := u.value.isLt
  have hlength : (s.filter (· != '-')).length = 32 := by
    rw [← List.length_map (f := Char.toLower), h, u.digits_length]
  have hne : s.filter (· != '-') ≠ [] := List.ne_nil_of_length_pos (by omega)
  obtain ⟨ds, hds, hvalue⟩ := mapM_of_map_toLower h
  rw [ofChars?, bare_of_digits hds, if_pos hlength, hexOfText?_of_mapM hne hds, hvalue,
    Nat.mod_eq_of_lt hlt, Option.bind_some, if_neg (by omega), Int.toNat_natCast, ofNat?,
    if_pos hcount, BitVec.ofNat_toNat, BitVec.setWidth_eq]

/-! ## Reading the canonical text -/

theorem filter_hyphenate_digits (u : Uuid) :
    ((hyphenate u.digits).filter (· != '-')).map Char.toLower = u.digits := by
  have hdigit : ∀ c ∈ u.digits, (c != '-') = true ∧ c.toLower = c :=
    forall_mem_hexDigits (by decide) 32 _
  rw [filter_hyphenate, List.filter_eq_self.2 fun c hc => (hdigit c hc).1,
    List.map_congr_left fun c hc => (hdigit c hc).2, List.map_id']

theorem ofText?_text (u : Uuid) : ofText? u.text = some u := by
  rw [ofText?, text, String.toList_ofList]
  exact ofChars?_of_digits (filter_hyphenate_digits u)

theorem text_injective {u v : Uuid} (h : u.text = v.text) : u = v := by
  have := ofText?_text u
  rw [h, ofText?_text v] at this
  exact (Option.some.inj this).symm

@[simp] theorem text_inj {u v : Uuid} : u.text = v.text ↔ u = v :=
  ⟨text_injective, congrArg text⟩

/-! ## Slashes -/

theorem mem_bare {s : List Char} {c : Char} (hurn : c ∉ "urn:".toList) (huuid : c ∉ "uuid:".toList)
    (hbrace : isBrace c = false) (hhyphen : c ≠ '-') (h : c ∈ s) : c ∈ bare s := by
  have hrest : c ∈ withoutWord "uuid:" (withoutWord "urn:" s) :=
    mem_replaceFrom (by simp) huuid (mem_replaceFrom (by simp) hurn h)
  unfold bare
  simp [mem_trim hbrace hrest, hhyphen]

theorem slash_mem_dropBaseMark {s : List Char} (h : '/' ∈ s) : '/' ∈ dropBaseMark s := by
  unfold dropBaseMark
  split
  · next c x rest =>
    split
    · next hmark =>
      have hc : '/' ≠ c := by
        rintro rfl
        exact absurd hmark.1 (by decide)
      have hx : '/' ≠ x := by
        rintro rfl
        simp at hmark
      have hrest : '/' ∈ rest := List.mem_of_ne_of_mem hx (List.mem_of_ne_of_mem hc h)
      split
      · exact List.mem_of_ne_of_mem (by decide) hrest
      · exact hrest
    · exact h
  · exact h

theorem slash_mem_splitSign {s : List Char} (h : '/' ∈ s) : '/' ∈ (splitSign s).2 := by
  unfold splitSign
  split
  · exact List.mem_of_ne_of_mem (by decide) h
  · exact List.mem_of_ne_of_mem (by decide) h
  · exact h

theorem ofChars?_of_slash_mem {s : List Char} (h : '/' ∈ s) : ofChars? s = none := by
  have hbare : '/' ∈ bare s := mem_bare (by decide) (by decide) (by decide) (by decide) h
  have htrim : '/' ∈ trim isBlank (bare s) := mem_trim (by decide) hbare
  have hbody := slash_mem_dropBaseMark (slash_mem_splitSign htrim)
  have hvalue : hexDigitValue '/' = none := by decide
  have hhex : hexOfText? (bare s) = none := by
    unfold hexOfText?
    simp [grouped_eq_none_of_mem hbody hvalue (by decide)]
  unfold ofChars?
  simp [hhex]

end Uuid

end Stockroom
