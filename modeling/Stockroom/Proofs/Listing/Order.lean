import Stockroom.Proofs.Listing

/-!
# How an order is specified

A field alone asks for it in ascending order; a direction may follow behind a comma, in any case of
letters, and there may be blanks around both. Every other text is at fault. The upper case of a text
is that of its points, so a direction may be spelled with the long s and with no other letter beyond
ASCII.
-/

namespace Stockroom.Listing

open Text

/-! ## Upper case -/

/-- The upper case of points, as far as Unicode fixes it for letters of a direction. The long s has
the upper case S and the sharp s has SS. That of any other point beyond ASCII holds a point that is
in no direction. -/
structure IsUpperCase (up : Nat → Points) : Prop where
  ascii : ∀ c : Char, c.toNat < 128 → up c.toNat = [c.toUpper.toNat]
  longS : up 0x17F = points "S"
  sharpS : up 0xDF = points "SS"
  other : ∀ n, 128 ≤ n → n ≠ 0x17F → n ≠ 0xDF → ∃ m ∈ up n, m ∉ points "ACDES"

/-- A point whose upper case is one letter that may be in a direction. -/
def IsPlain (n : Nat) : Prop := n < 128 ∨ n = 0x17F

variable {up : Nat → Points}

theorem toUpper_eq_or (c : Char) : c.toUpper = c ∨ 97 ≤ c.toNat ∧ c.toNat ≤ 122 := by
  unfold Char.toUpper
  split
  · next h => exact Or.inr h
  · exact Or.inl rfl

theorem bounds_of_toUpper {c : Char} {d : String} (hd : d ∈ directions) (h : c.toUpper ∈ d.toList) :
    65 ≤ c.toNat ∧ c.toNat ≤ 122 := by
  have hbounds : ∀ d ∈ directions, ∀ c ∈ d.toList, 65 ≤ c.toNat ∧ c.toNat ≤ 122 := by
    simp [directions, ascending, descending]
  rcases toUpper_eq_or c with heq | hlower
  · rw [heq] at h
    exact hbounds d hd c h
  · omega

theorem upperChar_of_ne {c : Char} (h : c.toNat ≠ 0x17F) : upperChar c = c.toUpper := if_neg h

theorem isPlain_of_upperChar {c : Char} {d : String} (hd : d ∈ directions)
    (h : upperChar c ∈ d.toList) : IsPlain c.toNat := by
  by_cases hlong : c.toNat = 0x17F
  · exact Or.inr hlong
  · rw [upperChar_of_ne hlong] at h
    have := bounds_of_toUpper hd h
    exact Or.inl (by omega)

theorem IsUpperCase.up_toNat (hup : IsUpperCase up) {c : Char} (h : IsPlain c.toNat) :
    up c.toNat = [(upperChar c).toNat] := by
  rcases h with h | h
  · rw [hup.ascii c h, upperChar_of_ne (by omega)]
  · rw [h, hup.longS, upperChar, if_pos h]
    rfl

theorem IsUpperCase.flatMap_eq (hup : IsUpperCase up) {s : List Char}
    (hs : ∀ c ∈ s, IsPlain c.toNat) : (s.map Char.toNat).flatMap up = points (upper s) := by
  rw [points, upper, String.toList_ofList]
  induction s with
  | nil => rfl
  | cons c s ih =>
    rw [List.forall_mem_cons] at hs
    rw [List.map_cons, List.flatMap_cons, hup.up_toNat hs.1, ih hs.2]
    rfl

theorem infix_flatMap {part : Points} {n : Nat} (h : n ∈ part) : up n <:+: part.flatMap up := by
  obtain ⟨front, back, rfl⟩ := List.append_of_mem h
  exact ⟨front.flatMap up, back.flatMap up, by simp⟩

theorem IsUpperCase.isPlain (hup : IsUpperCase up) {d : String} (hd : d ∈ directions) {n : Nat}
    (h : up n <:+: points d) : IsPlain n := by
  by_cases hascii : n < 128
  · exact Or.inl hascii
  by_cases hlong : n = 0x17F
  · exact Or.inr hlong
  exfalso
  by_cases hsharp : n = 0xDF
  · -- No direction has two S.
    have hcount : ∀ d ∈ directions, (points d).count 83 < (points "SS").count 83 := by decide
    rw [hsharp, hup.sharpS] at h
    exact Nat.not_lt.2 (h.sublist.count_le 83) (hcount d hd)
  · have hletters : ∀ d ∈ directions, ∀ m ∈ points d, m ∈ points "ACDES" := by decide
    obtain ⟨m, hm, hbeyond⟩ := hup.other n (by omega) hlong hsharp
    exact hbeyond (hletters d hd m (h.subset hm))

theorem exists_chars {part : Points} (h : ∀ n ∈ part, IsPlain n) :
    ∃ s : List Char, part = s.map Char.toNat ∧ ∀ c ∈ s, IsPlain c.toNat := by
  have hchar : ∀ n ∈ part, (Char.ofNat n).toNat = n := by
    intro n hn
    apply toNat_ofNat
    rcases h n hn with hn | rfl
    · exact Or.inl (by omega)
    · exact Or.inl (by decide)
  refine ⟨part.map Char.ofNat, ?_, fun c hc => ?_⟩
  · rw [List.map_map]
    conv => lhs; rw [← List.map_id part]
    exact List.map_congr_left fun n hn => (hchar n hn).symm
  · obtain ⟨n, hn, rfl⟩ := List.mem_map.1 hc
    rw [hchar n hn]
    exact h n hn

theorem directionOfText?_eq_some_iff {s : List Char} {d : String} :
    directionOfText? s = some d ↔ d ∈ directions ∧ upper s = d := by
  unfold directionOfText?
  constructor
  · intro h
    have hupper : (d == upper s) = true := List.find?_some (p := (· == upper s)) h
    exact ⟨List.mem_of_find?_eq_some h, (beq_iff_eq.1 hupper).symm⟩
  · rintro ⟨hd, rfl⟩
    have hall : ∀ d ∈ directions, directions.find? (· == d) = some d := by decide
    exact hall _ hd

theorem IsUpperCase.direction_iff (hup : IsUpperCase up) {part : Points} {d : String} :
    readPoints? directionOfText? part = some d ↔ d ∈ directions ∧ part.flatMap up = points d := by
  constructor
  · intro h
    obtain ⟨s, hs, hread⟩ := Option.bind_eq_some_iff.1 h
    obtain ⟨hd, hupper⟩ := directionOfText?_eq_some_iff.1 hread
    refine ⟨hd, ?_⟩
    rw [← points_of_ofPoints? hs, points, hup.flatMap_eq, hupper]
    intro c hc
    apply isPlain_of_upperChar hd
    rw [← hupper, upper, String.toList_ofList]
    exact List.mem_map_of_mem hc
  · rintro ⟨hd, hpart⟩
    obtain ⟨s, rfl, hs⟩ := exists_chars fun n hn => hup.isPlain hd (hpart ▸ infix_flatMap hn)
    rw [hup.flatMap_eq hs] at hpart
    have hpoints : s.map Char.toNat = points (String.ofList s) := by
      rw [points, String.toList_ofList]
    rw [hpoints, readPoints?_points, String.toList_ofList, directionOfText?_eq_some_iff]
    exact ⟨hd, points_injective hpart⟩

/-! ## Parts -/

/-- A text without the blanks around it. -/
def stripped (p : Points) : Points := trim (isPointOf isSpace) p

theorem orderParts_of_not_mem {raw : Points} (h : ','.toNat ∉ raw) :
    orderParts raw = [stripped raw] := by
  rw [orderParts, List.splitOn_eq_singleton h, List.map_singleton, stripped]

theorem orderParts_append {front : Points} (h : ','.toNat ∉ front) (rest : Points) :
    orderParts (front ++ ','.toNat :: rest) = stripped front :: orderParts rest := by
  rw [orderParts, List.splitOn_append_cons_self_of_not_mem h, List.map_cons]
  rfl

theorem exists_cons_orderParts (raw : Points) : ∃ part parts, orderParts raw = part :: parts := by
  apply List.exists_cons_of_ne_nil
  unfold orderParts
  exact mt List.map_eq_nil_iff.1 (List.splitOn_ne_nil _ _)

/-! ## Specifications -/

/-- A text specifies an order: a field alone, or a field and a direction with a comma between. -/
inductive Specifies (up : Nat → Points) : Points → OrderBy → Prop
  | field {raw : Points} (hraw : ','.toNat ∉ raw) : Specifies up raw ⟨stripped raw, ascending⟩
  | both {front back : Points} {d : String} (hfront : ','.toNat ∉ front) (hback : ','.toNat ∉ back)
      (hd : d ∈ directions) (hupper : (stripped back).flatMap up = points d) :
      Specifies up (front ++ ','.toNat :: back) ⟨stripped front, d⟩

/-- What is wrong with a text: it has more than two parts, or its second part is no direction, or it
specifies a field that cannot be sorted by. -/
inductive OrderFault (up : Nat → Points) (sortable : List Points) : Points → ParamFault → Prop
  | shape {front second rest : Points} (hfront : ','.toNat ∉ front) (hsecond : ','.toNat ∉ second) :
      OrderFault up sortable (front ++ ','.toNat :: (second ++ ','.toNat :: rest))
        (.orderShape (front ++ ','.toNat :: (second ++ ','.toNat :: rest)))
  | direction {front back : Points} (hfront : ','.toNat ∉ front) (hback : ','.toNat ∉ back)
      (hnone : ∀ d ∈ directions, (stripped back).flatMap up ≠ points d) :
      OrderFault up sortable (front ++ ','.toNat :: back) (.unknownDirection (stripped back))
  | field {raw : Points} {o : OrderBy} (hraw : Specifies up raw o) (hfield : o.field ∉ sortable) :
      OrderFault up sortable raw (.notSortable o.field)

variable {sortable : List Points} {raw : Points} {o : OrderBy} {f : ParamFault}

theorem Specifies.readOrder_eq (hup : IsUpperCase up) (h : Specifies up raw o) :
    readOrder sortable raw =
      if o.field ∈ sortable then .ok o else .error (.notSortable o.field) := by
  cases h with
  | field hraw => rw [readOrder, orderParts_of_not_mem hraw]
  | both hfront hback hd hupper =>
    have hread := hup.direction_iff.2 ⟨hd, hupper⟩
    rw [readOrder, orderParts_append hfront, orderParts_of_not_mem hback]
    dsimp only
    rw [hread]

theorem OrderFault.readOrder_eq (hup : IsUpperCase up) (h : OrderFault up sortable raw f) :
    readOrder sortable raw = .error f := by
  cases h with
  | @shape front second rest hfront hsecond =>
    obtain ⟨part, parts, hparts⟩ := exists_cons_orderParts rest
    rw [readOrder, orderParts_append hfront, orderParts_append hsecond, hparts]
  | @direction front back hfront hback hnone =>
    have hread : readPoints? directionOfText? (stripped back) = none := by
      rw [Option.eq_none_iff_forall_ne_some]
      intro d hd
      obtain ⟨hmem, hupper⟩ := hup.direction_iff.1 hd
      exact hnone d hmem hupper
    rw [readOrder, orderParts_append hfront, orderParts_of_not_mem hback]
    dsimp only
    rw [hread]
  | field hraw hfield => rw [hraw.readOrder_eq hup, if_neg hfield]

theorem specifies_or_fault (up : Nat → Points) (sortable : List Points) (raw : Points) :
    (∃ o, Specifies up raw o ∧ o.field ∈ sortable) ∨ ∃ f, OrderFault up sortable raw f := by
  have hsortable (o : OrderBy) (ho : Specifies up raw o) :
      (∃ o, Specifies up raw o ∧ o.field ∈ sortable) ∨ ∃ f, OrderFault up sortable raw f := by
    by_cases hfield : o.field ∈ sortable
    · exact Or.inl ⟨o, ho, hfield⟩
    · exact Or.inr ⟨_, .field ho hfield⟩
  by_cases hraw : ','.toNat ∈ raw
  · obtain ⟨front, back, rfl, hfront⟩ := List.eq_append_cons_of_mem hraw
    by_cases hback : ','.toNat ∈ back
    · obtain ⟨second, rest, rfl, hsecond⟩ := List.eq_append_cons_of_mem hback
      exact Or.inr ⟨_, .shape hfront hsecond⟩
    · by_cases hdirection : ∃ d ∈ directions, (stripped back).flatMap up = points d
      · obtain ⟨d, hd, hupper⟩ := hdirection
        exact hsortable _ (.both hfront hback hd hupper)
      · refine Or.inr ⟨_, .direction hfront hback fun d hd hupper => ?_⟩
        exact hdirection ⟨d, hd, hupper⟩
  · exact hsortable _ (.field hraw)

theorem readOrder_eq_ok_iff (hup : IsUpperCase up) :
    readOrder sortable raw = .ok o ↔ Specifies up raw o ∧ o.field ∈ sortable := by
  constructor
  · intro h
    rcases specifies_or_fault up sortable raw with ⟨read, hread, hfield⟩ | ⟨f, hf⟩
    · rw [hread.readOrder_eq hup, if_pos hfield] at h
      cases h
      exact ⟨hread, hfield⟩
    · rw [hf.readOrder_eq hup] at h
      cases h
  · rintro ⟨ho, hfield⟩
    rw [ho.readOrder_eq hup, if_pos hfield]

theorem readOrder_eq_error_iff (hup : IsUpperCase up) :
    readOrder sortable raw = .error f ↔ OrderFault up sortable raw f := by
  constructor
  · intro h
    rcases specifies_or_fault up sortable raw with ⟨read, hread, hfield⟩ | ⟨told, htold⟩
    · rw [hread.readOrder_eq hup, if_pos hfield] at h
      cases h
    · rw [htold.readOrder_eq hup] at h
      cases h
      exact htold
  · exact OrderFault.readOrder_eq hup

/-! ## Writing an order -/

/-- A text with any blanks around it. -/
def Pads (s padded : Points) : Prop :=
  ∃ before behind, padded = before ++ s ++ behind ∧
    ∀ n ∈ before ++ behind, isPointOf isSpace n = true

/-- A text that writes an order: the field, a comma and the direction in any case of letters. -/
def WritesOrder (field : Points) (direction : String) (raw : Points) : Prop :=
  ∃ front back, ∃ word : List Char, raw = front ++ ','.toNat :: back ∧ Pads field front ∧
    Pads (word.map Char.toNat) back ∧ word.map Char.toUpper = direction.toList

theorem Pads.stripped_eq {s padded : Points} (h : Pads s padded) :
    stripped padded = stripped s := by
  obtain ⟨before, behind, rfl, hblank⟩ := h
  rw [List.forall_mem_append] at hblank
  exact trim_padded hblank.1 hblank.2

theorem Pads.comma_not_mem {s padded : Points} (h : Pads s padded) (hs : ','.toNat ∉ s) :
    ','.toNat ∉ padded := by
  obtain ⟨before, behind, rfl, hblank⟩ := h
  have hne : ','.toNat ∉ before ++ behind := by
    intro hmem
    exact absurd (hblank _ hmem) (by decide)
  simp only [List.mem_append, not_or] at hne ⊢
  exact ⟨⟨hne.1, hs⟩, hne.2⟩

theorem isPointOf_isSpace {n : Nat} (hn : 65 ≤ n ∧ n ≤ 122) : isPointOf isSpace n = false := by
  rw [← Bool.not_eq_true]
  intro h
  obtain ⟨c, rfl, hc⟩ := exists_of_isPointOf h
  simp [isSpace, isBlank] at hc
  omega

theorem bounds_of_spelling {word : List Char} {d : String} (hd : d ∈ directions)
    (hword : word.map Char.toUpper = d.toList) :
    ∀ n ∈ word.map Char.toNat, 65 ≤ n ∧ n ≤ 122 := by
  intro n hn
  obtain ⟨c, hc, rfl⟩ := List.mem_map.1 hn
  apply bounds_of_toUpper hd
  rw [← hword]
  exact List.mem_map_of_mem hc

theorem IsUpperCase.spelling (hup : IsUpperCase up) {word : List Char} {d : String}
    (hd : d ∈ directions) (hword : word.map Char.toUpper = d.toList) :
    (word.map Char.toNat).flatMap up = points d := by
  have hbounds (c : Char) (hc : c ∈ word) : 65 ≤ c.toNat ∧ c.toNat ≤ 122 :=
    bounds_of_spelling hd hword _ (List.mem_map_of_mem hc)
  have hupper : word.map upperChar = word.map Char.toUpper := by
    apply List.map_congr_left
    intro c hc
    have := hbounds c hc
    exact upperChar_of_ne (by omega)
  rw [hup.flatMap_eq, upper, hupper, hword, String.ofList_toList]
  intro c hc
  have := hbounds c hc
  exact Or.inl (by omega)

theorem WritesOrder.specifies (hup : IsUpperCase up) {field : Points} {d : String}
    (hd : d ∈ directions) (hcomma : ','.toNat ∉ field) (hstripped : stripped field = field)
    (h : WritesOrder field d raw) : Specifies up raw ⟨field, d⟩ := by
  obtain ⟨front, back, word, rfl, hfront, hback, hword⟩ := h
  have hletters := bounds_of_spelling hd hword
  have hwordComma : ','.toNat ∉ word.map Char.toNat := fun hmem =>
    absurd (hletters _ hmem).1 (by decide)
  have hwordStripped : stripped (word.map Char.toNat) = word.map Char.toNat :=
    trim_of_forall fun n hn => isPointOf_isSpace (hletters n hn)
  have hspecifies : Specifies up (front ++ ','.toNat :: back) ⟨stripped front, d⟩ := by
    apply Specifies.both (hfront.comma_not_mem hcomma) (hback.comma_not_mem hwordComma) hd
    rw [hback.stripped_eq, hwordStripped, hup.spelling hd hword]
  rwa [hfront.stripped_eq, hstripped] at hspecifies

/-! ## Reading an order -/

/-- An order is read from a text exactly if the text specifies it and its field can be sorted by.
So every padding and every case of letters is read. Any other text is refused with what is wrong
with it, as a fault of the order alone. -/
theorem orders_specified (hup : IsUpperCase up) {ps : Params} (config : ListConfig)
    (hne : value ps "orderby" ≠ []) :
    (∀ o, orderOf ps config = .ok o ↔
      Specifies up (value ps "orderby") o ∧ o.field ∈ config.sortable) ∧
    (∀ o, orderOf ps config = .ok o →
      o.field ∈ config.sortable ∧ o.direction ∈ directions.map points) ∧
    (∀ field ∈ config.sortable, ∀ d ∈ directions, ','.toNat ∉ field → stripped field = field →
      WritesOrder field d (value ps "orderby") → orderOf ps config = .ok ⟨field, d⟩) ∧
    (∀ f, orderOf ps config = .error (.bad "orderby" f) ↔
      OrderFault up config.sortable (value ps "orderby") f) ∧
    ((¬ ∃ o, Specifies up (value ps "orderby") o ∧ o.field ∈ config.sortable) →
      ∃ f, orderOf ps config = .error (.bad "orderby" f) ∧
        (ListFault.bad "orderby" f).problem = .fields [("orderby", points f.message)]) := by
  have hread (o : OrderBy) : orderOf ps config = .ok o ↔
      Specifies up (value ps "orderby") o ∧ o.field ∈ config.sortable :=
    (param_getD_eq_ok_iff hne).trans (readOrder_eq_ok_iff hup)
  have hrefused (f : ParamFault) : orderOf ps config = .error (.bad "orderby" f) ↔
      OrderFault up config.sortable (value ps "orderby") f := by
    rw [orderOf, param_getD_eq_error_iff hne]
    simp only [ListFault.bad.injEq, true_and, readOrder_eq_error_iff hup, exists_eq_right']
  refine ⟨hread, fun o ho => ?_, ?_, hrefused, fun hnone => ?_⟩
  · exact mem_of_readOrder ((param_getD_eq_ok_iff hne).1 ho)
  · intro field hfield d hd hcomma hstripped hwrites
    exact (hread _).2 ⟨hwrites.specifies hup hd hcomma hstripped, hfield⟩
  · rcases specifies_or_fault up config.sortable (value ps "orderby") with hsome | ⟨f, hf⟩
    · exact absurd hsome hnone
    · exact ⟨f, (hrefused f).2 hf, rfl⟩

/-- Upper case of ASCII, of the long s and of the sharp s. Every other point stays. -/
def latinUpper (n : Nat) : Points :=
  if n < 128 then [(Char.ofNat n).toUpper.toNat]
  else if n = 0x17F then points "S"
  else if n = 0xDF then points "SS"
  else [n]

theorem isUpperCase_latinUpper : IsUpperCase latinUpper where
  ascii c hc := by rw [latinUpper, if_pos hc, Char.ofNat_toNat]
  longS := rfl
  sharpS := rfl
  other n hn hlong hsharp := by
    have hletters : ∀ m ∈ points "ACDES", m < 128 := by decide
    refine ⟨n, ?_, fun hmem => ?_⟩
    · rw [latinUpper, if_neg (by omega), if_neg hlong, if_neg hsharp]
      exact List.mem_singleton_self n
    · exact Nat.not_lt.2 hn (hletters n hmem)

theorem order_texts_read :
    orderOf [("orderby", " name , de\u017Fc")] .standard = .ok ⟨"name", descending⟩ ∧
      orderOf [("orderby", "\u3000cost\u2003,\tDesc")] .standard = .ok ⟨"cost", descending⟩ ∧
      orderOf [("orderby", "name, up")] .standard =
        .error (.bad "orderby" (.unknownDirection "up")) := by
  refine ⟨?_, ?_, ?_⟩
  · have hne : value [("orderby", " name , de\u017Fc")] "orderby" ≠ [] := by decide
    have hspecifies : Specifies latinUpper (points " name " ++ ','.toNat :: points " de\u017Fc")
        ⟨stripped " name ", descending⟩ := .both (by decide) (by decide) (by decide) (by decide)
    exact ((orders_specified isUpperCase_latinUpper .standard hne).1 _).2 ⟨hspecifies, by decide⟩
  · have hne : value [("orderby", "\u3000cost\u2003,\tDesc")] "orderby" ≠ [] := by decide
    obtain ⟨-, -, hwritten, -⟩ := orders_specified isUpperCase_latinUpper .standard hne
    apply hwritten "cost" (by decide) descending (by decide) (by decide) (by decide)
    exact ⟨"\u3000cost\u2003", "\tDesc", "Desc".toList, by decide,
      ⟨"\u3000", "\u2003", by decide, by decide⟩, ⟨"\t", "", by decide, by decide⟩, by decide⟩
  · have hne : value [("orderby", "name, up")] "orderby" ≠ [] := by decide
    have hfault : OrderFault latinUpper ListConfig.standard.sortable
        (points "name" ++ ','.toNat :: points " up") (.unknownDirection (stripped " up")) :=
      .direction (by decide) (by decide) (by decide)
    obtain ⟨-, -, -, hrefused, -⟩ := orders_specified isUpperCase_latinUpper .standard hne
    exact (hrefused _).2 hfault

end Stockroom.Listing
