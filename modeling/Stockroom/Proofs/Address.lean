import Mathlib.Data.List.TakeWhile
import Stockroom.Address

/-!
# Addresses and their texts

The text of an address is its opening (a scheme with its colon, or nothing, and two slashes), its
authority, and the rest, which begins where an authority ends. So an authority can be put in the
place of another one, and is then what the text is split into.
-/

namespace Stockroom.Address

open Text

/-! ## Schemes -/

/-- A letter, and then letters, digits and the marks `+`, `-` and `.`. -/
structure IsScheme (name : Points) : Prop where
  head : name.head?.any (isPointOf Char.isAlpha) = true
  chars : ∀ n ∈ name, isPointOf isSchemeChar n = true

theorem isScheme_iff {name : Points} : IsScheme name ↔
    (name.head?.any (isPointOf Char.isAlpha) && name.all (isPointOf isSchemeChar)) = true := by
  rw [Bool.and_eq_true, List.all_eq_true]
  exact ⟨fun h => ⟨h.head, h.chars⟩, fun h => ⟨h.1, h.2⟩⟩

instance (name : Points) : Decidable (IsScheme name) := decidable_of_iff _ isScheme_iff.symm

theorem toNat_of_isSchemeChar {n : Nat} (h : isPointOf isSchemeChar n = true) :
    32 < n ∧ n ≠ ':'.toNat := by
  obtain ⟨c, rfl, hc⟩ := exists_of_isPointOf h
  simp only [isSchemeChar, Bool.or_eq_true, beq_iff_eq] at hc
  rcases hc with ((hc | rfl) | rfl) | rfl
  · have := toNat_of_isAlphanum hc
    have hcolon : ':'.toNat = 58 := rfl
    omega
  all_goals decide

theorem isPoint_eq_false_iff {c : Char} {n : Nat} : isPoint c n = false ↔ n ≠ c.toNat := by
  rw [isPoint, beq_eq_false_iff_ne]

theorem IsScheme.colon_not_mem {name : Points} (h : IsScheme name) :
    ∀ n ∈ name, isPoint ':' n = false := by
  intro n hn
  rw [isPoint_eq_false_iff]
  exact (toNat_of_isSchemeChar (h.chars n hn)).2

theorem splitScheme_append {name : Points} (h : IsScheme name) (rest : Points) :
    splitScheme (name ++ ':'.toNat :: rest) = (name.map lowerPoint, rest) := by
  unfold splitScheme
  rw [splitFirst_append h.colon_not_mem (beq_self_eq_true _)]
  exact if_pos (isScheme_iff.1 h)

theorem splitScheme_of_not_isScheme {name : Points} (hcolon : ∀ n ∈ name, isPoint ':' n = false)
    (h : ¬ IsScheme name) (rest : Points) :
    splitScheme (name ++ ':'.toNat :: rest) = ([], name ++ ':'.toNat :: rest) := by
  unfold splitScheme
  rw [splitFirst_append hcolon (beq_self_eq_true _)]
  exact if_neg (mt isScheme_iff.2 h)

theorem splitScheme_slash (rest : Points) : splitScheme (slash :: rest) = ([], slash :: rest) := by
  have hhead : ∀ name : Points, name.head? = some slash → ¬ IsScheme name := by
    intro name hname h
    have halpha := h.head
    rw [hname] at halpha
    revert halpha
    decide
  rcases splitFirst_cases (isPoint ':') (slash :: rest) with
    ⟨-, hsplit⟩ | ⟨name, colon, behind, hp, hname, hcolon, -⟩
  · unfold splitScheme
    rw [hsplit]
  · obtain rfl : colon = ':'.toNat := beq_iff_eq.1 hcolon
    rw [hp]
    refine splitScheme_of_not_isScheme hname (hhead name ?_) behind
    cases name with
    | nil => exact absurd (List.cons.inj hp).1 (by decide)
    | cons n name => rw [List.head?_cons, (List.cons.inj hp).1]

theorem splitScheme_cases (p : Points) :
    splitScheme p = ([], p) ∨ ∃ name rest, IsScheme name ∧ p = name ++ ':'.toNat :: rest ∧
      splitScheme p = (name.map lowerPoint, rest) := by
  rcases splitFirst_cases (isPoint ':') p with
    ⟨-, hsplit⟩ | ⟨name, colon, rest, rfl, hname, hcolon, -⟩
  · refine Or.inl ?_
    unfold splitScheme
    rw [hsplit]
  · obtain rfl : colon = ':'.toNat := beq_iff_eq.1 hcolon
    by_cases h : IsScheme name
    · exact Or.inr ⟨name, rest, h, rfl, splitScheme_append h rest⟩
    · exact Or.inl (splitScheme_of_not_isScheme hname h rest)

/-! ## Characters that are dropped -/

theorem isPointOf_isLineControl {n : Nat} (hn : 32 < n) : isPointOf isLineControl n = false := by
  rw [← Bool.not_eq_true]
  intro h
  obtain ⟨c, rfl, hc⟩ := exists_of_isPointOf h
  simp only [isLineControl, Bool.or_eq_true, beq_iff_eq] at hc
  rcases hc with (rfl | rfl) | rfl <;> exact absurd hn (by decide)

/-- A text without the controls that a line ends or is set out with. -/
def unbroken (p : Points) : Points := p.filter (!isPointOf isLineControl ·)

theorem unbroken_append (p q : Points) : unbroken (p ++ q) = unbroken p ++ unbroken q :=
  List.filter_append p q

theorem mem_unbroken {p : Points} {n : Nat} (h : n ∈ unbroken p) : n ∈ p :=
  (List.mem_filter.1 h).1

theorem unbroken_cons {n : Nat} (hn : 32 < n) (p : Points) :
    unbroken (n :: p) = n :: unbroken p := by
  unfold unbroken
  rw [List.filter_cons_of_pos]
  rw [isPointOf_isLineControl hn, Bool.not_false]

theorem unbroken_eq_self_iff {p : Points} :
    unbroken p = p ↔ ∀ n ∈ p, isPointOf isLineControl n = false := by
  unfold unbroken
  rw [List.filter_eq_self]
  simp

theorem cleaned_append {front : Points} (hne : front ≠ []) (hfront : ∀ n ∈ front, 32 < n)
    (rest : Points) : cleaned (front ++ rest) = front ++ unbroken rest := by
  have hdrop : (front ++ rest).dropWhile isControl = front ++ rest := by
    obtain ⟨n, ns, rfl⟩ := List.exists_cons_of_ne_nil hne
    have hn := hfront n List.mem_cons_self
    rw [List.cons_append, List.dropWhile_cons_of_neg]
    rw [isControl, decide_eq_true_eq]
    omega
  have hkeep : unbroken front = front :=
    unbroken_eq_self_iff.2 fun n hn => isPointOf_isLineControl (hfront n hn)
  rw [cleaned, hdrop]
  exact (unbroken_append front rest).trans (by rw [hkeep])

theorem cleaned_eq_self {p : Points} (hstart : p.head?.all (!isControl ·) = true)
    (hline : ∀ n ∈ p, isPointOf isLineControl n = false) : cleaned p = p := by
  have hdrop : p.dropWhile isControl = p := by
    cases p with
    | nil => rfl
    | cons n p =>
      rw [List.dropWhile_cons_of_neg]
      simpa using hstart
  rw [cleaned, hdrop]
  exact unbroken_eq_self_iff.2 hline

/-! ## Authorities -/

theorem endsAuthority_eq_true_iff {n : Nat} :
    endsAuthority n = true ↔ n = slash ∨ n = '?'.toNat ∨ n = '#'.toNat := by
  simp only [endsAuthority, endsPath, isPoint, Bool.or_eq_true, beq_iff_eq]

theorem lt_of_endsAuthority {n : Nat} (h : endsAuthority n = true) : 32 < n := by
  rcases endsAuthority_eq_true_iff.1 h with rfl | rfl | rfl <;> decide

/-- What follows an authority: nothing, or a character that ends it. -/
def Follows (rest : Points) : Prop := ∀ n ∈ rest.head?, endsAuthority n = true

theorem Follows.takeWhile {rest : Points} (h : Follows rest) :
    rest.takeWhile (!endsAuthority ·) = [] := by
  cases rest with
  | nil => rfl
  | cons n rest =>
    rw [List.takeWhile_cons_of_neg]
    rw [h n rfl]
    decide

theorem Follows.unbroken {rest : Points} (h : Follows rest) : Follows (unbroken rest) := by
  cases rest with
  | nil => exact h
  | cons n rest =>
    rw [unbroken_cons (lt_of_endsAuthority (h n rfl))]
    exact h

theorem takeWhile_append (q : Points) {rest : Points} (hrest : Follows rest) :
    (q ++ rest).takeWhile (!endsAuthority ·) = q.takeWhile (!endsAuthority ·) := by
  rw [List.takeWhile_append, hrest.takeWhile]
  split
  · next hall =>
    rw [List.append_nil, (List.takeWhile_prefix _).eq_of_length hall]
  · rfl

theorem takeWhile_append_of_mem {q : Points} {n : Nat} (hn : n ∈ q) (hends : endsAuthority n = true)
    (rest : Points) :
    (q ++ rest).takeWhile (!endsAuthority ·) = q.takeWhile (!endsAuthority ·) := by
  rw [List.takeWhile_append, if_neg]
  intro hall
  have hself := List.takeWhile_eq_self_iff.1 ((List.takeWhile_prefix _).eq_of_length hall) n hn
  rw [hends] at hself
  cases hself

/-- The two slashes in front of an authority, behind a scheme and its colon if there is one. -/
inductive Opens : (scheme front : Points) → Prop
  | bare : Opens [] [slash, slash]
  | named {name : Points} (h : IsScheme name) :
    Opens (name.map lowerPoint) (name ++ [':'.toNat, slash, slash])

namespace Opens

variable {scheme front : Points}

theorem ne_nil (h : Opens scheme front) : front ≠ [] := by
  cases h with
  | bare => exact List.cons_ne_nil _ _
  | named h => simp

theorem lt (h : Opens scheme front) : ∀ n ∈ front, 32 < n := by
  cases h with
  | bare => decide
  | named h =>
    intro n hn
    rcases List.mem_append.1 hn with hn | hn
    · exact (toNat_of_isSchemeChar (h.chars n hn)).1
    · exact (by decide : ∀ n ∈ [':'.toNat, slash, slash], 32 < n) n hn

theorem exists_parts (h : Opens scheme front) (q : Points) :
    ∃ path, parts (front ++ q) = ⟨scheme, (unbroken q).takeWhile (!endsAuthority ·), path⟩ := by
  have hauthority : ∀ q : Points, splitAuthority (slash :: slash :: q) =
      (q.takeWhile (!endsAuthority ·), q.dropWhile (!endsAuthority ·)) := fun q => rfl
  unfold parts
  rw [cleaned_append h.ne_nil h.lt]
  cases h with
  | bare =>
    have hscheme := splitScheme_slash (slash :: unbroken q)
    simp only [List.cons_append, List.nil_append, hscheme, hauthority]
    exact ⟨_, rfl⟩
  | named h =>
    have hscheme := splitScheme_append h (slash :: slash :: unbroken q)
    simp only [List.append_assoc, List.cons_append, List.nil_append, hscheme, hauthority]
    exact ⟨_, rfl⟩

theorem exists_parts_append (h : Opens scheme front) {authority rest : Points}
    (hauthority : ∀ n ∈ authority, endsAuthority n = false) (hrest : Follows rest) :
    ∃ path, parts (front ++ (authority ++ rest)) = ⟨scheme, unbroken authority, path⟩ := by
  have hopen : ∀ n ∈ unbroken authority, (!endsAuthority n) = true := fun n hn => by
    rw [hauthority n (mem_unbroken hn), Bool.not_false]
  obtain ⟨path, hparts⟩ := h.exists_parts (authority ++ rest)
  rw [unbroken_append, takeWhile_append _ hrest.unbroken,
    List.takeWhile_eq_self_iff.2 hopen] at hparts
  exact ⟨path, hparts⟩

end Opens

theorem exists_opens {p : Points} (hp : cleaned p = p) (hne : (parts p).authority ≠ []) :
    ∃ front rest, p = front ++ ((parts p).authority ++ rest) ∧ Opens (parts p).scheme front ∧
      (∀ n ∈ (parts p).authority, endsAuthority n = false) ∧ Follows rest := by
  -- Without its scheme the text has to begin with the slashes, or there is no authority.
  obtain ⟨scheme, text, front, hsplit, hfront, hopens⟩ : ∃ scheme text front,
      splitScheme p = (scheme, text) ∧ p = front ++ text ∧
        Opens scheme (front ++ [slash, slash]) := by
    rcases splitScheme_cases p with hsplit | ⟨name, rest, hname, rfl, hsplit⟩
    · exact ⟨_, _, [], hsplit, rfl, .bare⟩
    · exact ⟨_, _, name ++ [':'.toNat], hsplit, by simp, by simpa using Opens.named hname⟩
  have hparts : (parts p).scheme = scheme ∧
      (parts p).authority = (splitAuthority text).1 := by
    unfold parts
    rw [hp, hsplit]
    exact ⟨rfl, rfl⟩
  rw [hparts.2] at hne
  rw [hparts.1, hparts.2]
  unfold splitAuthority at hne ⊢
  split
  · next hslashes =>
    obtain ⟨q, rfl⟩ := List.isPrefixOf_iff_prefix.1 hslashes
    refine ⟨front ++ [slash, slash], q.dropWhile (!endsAuthority ·), ?_, hopens, ?_, ?_⟩
    · rw [hfront]
      simp
    · intro n hn
      simpa using List.all_eq_true.1 List.all_takeWhile n hn
    · intro n hn
      have hhead := List.head?_dropWhile_not (!endsAuthority ·) q
      rw [hn] at hhead
      simpa using hhead
  · next hslashes => exact absurd (if_neg hslashes ▸ rfl) hne

/-! ## User infos -/

section

variable {a b : Address} {info place user password : Points}

theorem userInfo?_of_forall (h : ∀ n ∈ a.authority, isPoint '@' n = false) :
    a.userInfo? = none := by
  rw [userInfo?, splitLast_of_none h]

theorem userInfo?_of_append (ha : a.authority = info ++ '@'.toNat :: place)
    (hplace : ∀ n ∈ place, isPoint '@' n = false) : a.userInfo? = some info ∧ a.place = place := by
  rw [userInfo?, Address.place, ha, splitLast_append hplace (beq_self_eq_true _)]
  exact ⟨rfl, rfl⟩

theorem authority_of_userInfo? (h : a.userInfo? = some info) :
    a.authority = info ++ '@'.toNat :: a.place ∧ ∀ n ∈ a.place, isPoint '@' n = false := by
  unfold userInfo? at h
  unfold Address.place
  rcases splitLast_cases (isPoint '@') a.authority with
    ⟨-, hsplit⟩ | ⟨front, at', back, hauthority, hback, hat, hsplit⟩
  · rw [hsplit] at h
    cases h
  · rw [hsplit] at h ⊢
    cases h
    rw [beq_iff_eq.1 hat] at hauthority
    exact ⟨hauthority, hback⟩

theorem password?_of_userInfo? (h : a.userInfo? = some (user ++ ':'.toNat :: password))
    (huser : ∀ n ∈ user, isPoint ':' n = false) :
    a.user? = some user ∧ a.password? = some password := by
  unfold user? password?
  rw [h, Option.map_some, Option.bind_some, splitFirst_append huser (beq_self_eq_true _)]
  exact ⟨rfl, rfl⟩

theorem password?_of_userInfo?_eq_none (h : a.userInfo? = none) : a.password? = none := by
  rw [password?, h, Option.bind_none]

theorem exists_user_of_password? (h : a.password? = some password) : ∃ user,
    a.userInfo? = some (user ++ ':'.toNat :: password) ∧ ∀ n ∈ user, isPoint ':' n = false := by
  obtain ⟨info, hinfo, hpassword⟩ := Option.bind_eq_some_iff.1 h
  rcases splitFirst_cases (isPoint ':') info with
    ⟨-, hsplit⟩ | ⟨user, colon, rest, rfl, huser, hcolon, hsplit⟩
  · rw [hsplit] at hpassword
    cases hpassword
  · rw [hsplit] at hpassword
    cases hpassword
    rw [beq_iff_eq.1 hcolon] at hinfo
    exact ⟨user, hinfo, huser⟩

/-- The user info of a text is what stands in front of the at sign, if nothing ends the authority
there. -/
theorem Opens.userInfo?_parts {scheme front rest : Points} (h : Opens scheme front)
    (hinfo : ∀ n ∈ info, endsAuthority n = false) (hplace : ∀ n ∈ place, isPoint '@' n = false)
    (hrest : Follows rest) :
    (parts (front ++ (info ++ '@'.toNat :: (place ++ rest)))).scheme = scheme ∧
    (parts (front ++ (info ++ '@'.toNat :: (place ++ rest)))).userInfo? = some (unbroken info) ∧
    (parts (front ++ (info ++ '@'.toNat :: (place ++ rest)))).place =
      (unbroken place).takeWhile (!endsAuthority ·) := by
  obtain ⟨path, hparts⟩ := h.exists_parts (info ++ '@'.toNat :: (place ++ rest))
  have hauthority : (unbroken (info ++ '@'.toNat :: (place ++ rest))).takeWhile (!endsAuthority ·) =
      unbroken info ++ '@'.toNat :: (unbroken place).takeWhile (!endsAuthority ·) := by
    have hopen : ∀ n ∈ unbroken info, (!endsAuthority n) = true := fun n hn => by
      rw [hinfo n (mem_unbroken hn), Bool.not_false]
    rw [unbroken_append, unbroken_cons (by decide), unbroken_append,
      List.takeWhile_append_of_pos hopen, List.takeWhile_cons_of_pos (by decide),
      takeWhile_append _ hrest.unbroken]
  have hnone : ∀ n ∈ (unbroken place).takeWhile (!endsAuthority ·), isPoint '@' n = false :=
    fun n hn => hplace n (mem_unbroken ((List.takeWhile_prefix _).mem hn))
  rw [hparts]
  exact ⟨rfl, userInfo?_of_append hauthority hnone⟩

/-! ## Faults -/

def IsUnbracketed (info : Points) : Prop := ∀ n ∈ info, n ≠ '['.toNat ∧ n ≠ ']'.toNat

instance (info : Points) : Decidable (IsUnbracketed info) := List.decidableBAll _ _

theorem ofPoints_eq_ok_iff {p : Points} :
    ofPoints p = .ok a ↔ (parts p).fault? = none ∧ parts p = a := by
  unfold ofPoints
  cases (parts p).fault? <;> simp

theorem bracketFault?_eq_of_place (ha : a.userInfo? = some info) (hinfo : IsUnbracketed info)
    {info' : Points} (hb : b.userInfo? = some info') (hinfo' : IsUnbracketed info')
    (hplace : b.place = a.place) : b.bracketFault? = a.bracketFault? := by
  have hany (c : Address) (i : Points) (hc : c.userInfo? = some i) (hi : IsUnbracketed i) :
      c.authority.any (isPoint '[') = c.place.any (isPoint '[') ∧
        c.authority.any (isPoint ']') = c.place.any (isPoint ']') := by
    have hnone : i.any (isPoint '[') = false ∧ i.any (isPoint ']') = false := by
      simp only [List.any_eq_false, isPoint, beq_iff_eq]
      exact ⟨fun n hn => (hi n hn).1, fun n hn => (hi n hn).2⟩
    rw [(authority_of_userInfo? hc).1]
    simp [hnone, isPoint]
  unfold bracketFault?
  rw [(hany a info ha hinfo).1, (hany a info ha hinfo).2, (hany b info' hb hinfo').1,
    (hany b info' hb hinfo').2, hplace]

theorem fault?_eq_none_of_subset (ha : a.fault? = none)
    (hbrackets : b.bracketFault? = a.bracketFault?)
    (hchars : ∀ n ∈ b.authority, n ∈ a.authority ∨ n < 128) : b.fault? = none := by
  unfold fault? at ha ⊢
  rw [hbrackets]
  cases hfault : a.bracketFault? with
  | some fault => simp [hfault] at ha
  | none =>
    rw [hfault] at ha
    have hclear : ¬ a.authority.any disguised.contains = true := fun hany => by simp [hany] at ha
    refine if_neg fun hany => hclear ?_
    obtain ⟨n, hn, hdisguised⟩ := List.any_eq_true.1 hany
    have hbig : ∀ m ∈ disguised, 128 ≤ m := by decide
    have := hbig n (List.contains_iff_mem.1 hdisguised)
    exact List.any_eq_true.2 ⟨n, (hchars n hn).resolve_right (by omega), hdisguised⟩

end

end Stockroom.Address
