import Stockroom.Proofs.Address

/-!
# What the mask hides

`mask` is a replacement in the whole text, but the password that it looks for has been read from the
authority. Where that is the password as it is written, its first occurrence is the one in the
authority and the others stand behind it. Where it is not, the text stays as it is.
-/

namespace Stockroom.Address

open Text

section

variable {p : Points} {a : Address} {password : Points}

theorem mask_of_password (ha : ofPoints p = .ok a) (h : a.password? = some password)
    (hne : password ≠ []) :
    mask p = .ok (replaceAll (enclosed password) (enclosed stars) p) := by
  rw [mask, ha]
  dsimp only [Except.map]
  rw [h]
  cases password with
  | nil => exact absurd rfl hne
  | cons n password => rfl

theorem mask_of_no_password (ha : ofPoints p = .ok a)
    (h : ∀ password ∈ a.password?, password = []) : mask p = .ok p := by
  rw [mask, ha]
  dsimp only [Except.map]
  cases hpassword : a.password? with
  | none => rfl
  | some password => rw [h password hpassword]

theorem mask_of_no_userInfo (ha : ofPoints p = .ok a)
    (h : ∀ n ∈ a.authority, isPoint '@' n = false) : mask p = .ok p := by
  refine mask_of_no_password ha fun password hpassword => ?_
  rw [password?_of_userInfo?_eq_none (userInfo?_of_forall h)] at hpassword
  cases hpassword

theorem exists_ofPoints_of_mask {out : Points} (h : mask p = .ok out) :
    ∃ a, ofPoints p = .ok a := by
  unfold mask at h
  cases ha : ofPoints p with
  | error fault =>
    rw [ha] at h
    cases h
  | ok a => exact ⟨a, rfl⟩

theorem mask_of_stars (ha : ofPoints p = .ok a) (h : a.password? = some stars) :
    mask p = .ok p := by
  rw [mask_of_password ha h (by decide), replaceAll_self (by decide)]

end

/-! ## The first occurrence -/

section

variable {scheme front user password place rest : Points}

/-- The colon of a scheme is no colon in front of a password: a slash follows it. -/
theorem Opens.replaceAll_append (h : Opens scheme front)
    (hpassword : ∀ n ∈ password, endsAuthority n = false) (new q : Points) :
    replaceAll (enclosed password) new (front ++ q) =
      front ++ replaceAll (enclosed password) new q := by
  have hslashes (q : Points) : replaceAll (enclosed password) new ([slash, slash] ++ q) =
      [slash, slash] ++ replaceAll (enclosed password) new q :=
    replaceAll_append_of_not_mem (by decide) _ new q
  cases h with
  | bare => exact hslashes q
  | named h =>
    rename_i name
    have hname : ':'.toNat ∉ name := fun hmem =>
      (toNat_of_isSchemeChar (h.chars _ hmem)).2 rfl
    have hcolon : replaceAll (enclosed password) new ([':'.toNat] ++ ([slash, slash] ++ q)) =
        [':'.toNat] ++ replaceAll (enclosed password) new ([slash, slash] ++ q) := by
      refine replaceAll_append_of_forall (fun back hne hback hword => ?_) new
      obtain rfl : back = [':'.toNat] := by
        rcases List.suffix_cons_iff.1 hback with rfl | hback
        · rfl
        · exact absurd (List.suffix_nil.1 hback) hne
      -- The point behind the colon would be the slash, or the at sign of an empty password.
      have hbehind := (List.cons_prefix_cons.1 hword).2
      cases password with
      | nil => exact absurd (List.cons_prefix_cons.1 hbehind).1 (by decide)
      | cons n password =>
        have hn := hpassword n List.mem_cons_self
        rw [(List.cons_prefix_cons.1 hbehind).1] at hn
        exact absurd hn (by decide)
    have hsplit : name ++ [':'.toNat, slash, slash] ++ q =
        name ++ ([':'.toNat] ++ ([slash, slash] ++ q)) := by simp
    rw [hsplit, enclosed, List.cons_append, replaceAll_append_of_not_mem hname]
    rw [← List.cons_append, ← enclosed, hcolon, hslashes]
    simp

theorem mem_enclosed {n : Nat} :
    n ∈ enclosed password ↔ n = ':'.toNat ∨ n ∈ password ∨ n = '@'.toNat := by
  simp only [enclosed, List.cons_append, List.mem_cons, List.mem_append, List.not_mem_nil, or_false]

theorem endsAuthority_enclosed (h : ∀ n ∈ password, endsAuthority n = false) :
    ∀ n ∈ enclosed password, endsAuthority n = false := by
  intro n hn
  rcases mem_enclosed.1 hn with rfl | hn | rfl
  · decide
  · exact h n hn
  · decide

theorem replaceAll_place (hpassword : ∀ n ∈ password, endsAuthority n = false)
    (hplace : ∀ n ∈ place, isPoint '@' n = false) (hrest : Follows rest) (new : Points) :
    replaceAll (enclosed password) new (place ++ rest) =
      place ++ replaceAll (enclosed password) new rest := by
  refine replaceAll_append_of_forall (fun back hne hback hword => ?_) new
  have hat : '@'.toNat ∉ back := fun hmem =>
    absurd (hplace _ (hback.mem hmem)) (by decide)
  have hend : '@'.toNat ∈ enclosed password := mem_enclosed.2 (Or.inr (Or.inr rfl))
  rcases List.prefix_or_prefix_of_prefix hword (List.prefix_append back rest) with
    hinside | ⟨more, hmore⟩
  · exact hat (hinside.mem hend)
  · -- An occurrence that reaches over the end of the place has the character that stands there.
    cases more with
    | nil =>
      rw [List.append_nil] at hmore
      exact hat (hmore ▸ hend)
    | cons n more =>
      rw [← hmore, List.prefix_append_right_inj] at hword
      obtain ⟨behind, rfl⟩ := hword
      have hends : endsAuthority n = true := hrest n rfl
      have hmem : n ∈ enclosed password := by simp [← hmore]
      rw [endsAuthority_enclosed hpassword n hmem] at hends
      cases hends

theorem replaceAll_enclosed (h : Opens scheme front) (huser : ∀ n ∈ user, isPoint ':' n = false)
    (hpassword : ∀ n ∈ password, endsAuthority n = false)
    (hplace : ∀ n ∈ place, isPoint '@' n = false) (hrest : Follows rest) (new : Points) :
    replaceAll (enclosed password) new
        (front ++ (user ++ (enclosed password ++ (place ++ rest)))) =
      front ++ (user ++ (new ++ (place ++ replaceAll (enclosed password) new rest))) := by
  have huser' : ':'.toNat ∉ user := fun hmem => absurd (huser _ hmem) (by decide)
  have hskip (q : Points) : replaceAll (enclosed password) new (user ++ q) =
      user ++ replaceAll (enclosed password) new q :=
    replaceAll_append_of_not_mem huser' _ new q
  have hne : enclosed password ≠ [] := by simp [enclosed]
  rw [h.replaceAll_append hpassword, hskip, replaceAll_word_append hne,
    replaceAll_place hpassword hplace hrest]

end

/-! ## Passwords that are read -/

/-- The parts that an address with a password shows. -/
structure Shows (a : Address) (scheme user password place : Points) : Prop where
  scheme : a.scheme = scheme
  userInfo : a.userInfo? = some (user ++ ':'.toNat :: password)
  user : a.user? = some user
  password : a.password? = some password
  place : a.place = place

section

variable {a : Address} {scheme front user password place rest : Points}

theorem Opens.shows (h : Opens scheme front)
    (huser : ∀ n ∈ user, isPoint ':' n = false ∧ endsAuthority n = false)
    (hpassword : ∀ n ∈ password, endsAuthority n = false)
    (hplace : ∀ n ∈ place, isPoint '@' n = false) (hrest : Follows rest) :
    (parts (front ++ (user ++ (enclosed password ++ (place ++ rest))))).Shows scheme
      (unbroken user) (unbroken password) ((unbroken place).takeWhile (!endsAuthority ·)) := by
  have hinfo : ∀ n ∈ user ++ ':'.toNat :: password, endsAuthority n = false := by
    intro n hn
    rcases List.mem_append.1 hn with hn | hn
    · exact (huser n hn).2
    · exact List.forall_mem_cons.2 ⟨by decide, hpassword⟩ n hn
  obtain ⟨hscheme, huserInfo, hplace⟩ := h.userInfo?_parts hinfo hplace hrest
  have htext : user ++ (enclosed password ++ (place ++ rest)) =
      (user ++ ':'.toNat :: password) ++ '@'.toNat :: (place ++ rest) := by
    simp [enclosed]
  rw [← htext] at hscheme huserInfo hplace
  rw [unbroken_append, unbroken_cons (by decide)] at huserInfo
  obtain ⟨hread, hfound⟩ :=
    password?_of_userInfo? huserInfo fun n hn => (huser n (mem_unbroken hn)).1
  exact ⟨hscheme, huserInfo, hread, hfound, hplace⟩

theorem exists_shows {p : Points} (hp : cleaned p = p) (ha : parts p = a)
    (h : a.password? = some password) :
    ∃ front user rest, p = front ++ (user ++ (enclosed password ++ (a.place ++ rest))) ∧
      a.Shows a.scheme user password a.place ∧ Opens a.scheme front ∧ Follows rest ∧
      (∀ n ∈ user, isPoint ':' n = false) ∧ (∀ n ∈ a.place, isPoint '@' n = false) ∧
      ∀ n ∈ user ++ (enclosed password ++ a.place), endsAuthority n = false := by
  obtain ⟨user, huserInfo, huser⟩ := exists_user_of_password? h
  obtain ⟨hauthority, hplace⟩ := authority_of_userInfo? huserInfo
  have hwritten : a.authority = user ++ (enclosed password ++ a.place) := by
    rw [hauthority]
    simp [enclosed]
  have hne : (parts p).authority ≠ [] := by
    rw [ha, hauthority]
    simp
  obtain ⟨front, rest, htext, hopens, hopen, hrest⟩ := exists_opens hp hne
  rw [ha] at htext hopens hopen
  rw [hwritten] at htext hopen
  refine ⟨front, user, rest, ?_, ?_, hopens, hrest, huser, hplace, hopen⟩
  · simpa using htext
  · exact ⟨rfl, huserInfo, (password?_of_userInfo? huserInfo huser).1, h, rfl⟩

end

/-! ## Masked addresses -/

/-- The address `b` is `a` with stars for its password. -/
structure IsMaskOf (b a : Address) : Prop where
  password : b.password? = some stars
  scheme : b.scheme = a.scheme
  user : b.user? = a.user?
  place : b.place = a.place

theorem Follows.replaceAll {rest : Points} (h : Follows rest) (password new : Points) :
    Follows (replaceAll (enclosed password) new rest) := by
  cases rest with
  | nil => exact h
  | cons n rest =>
    have hn : n ≠ ':'.toNat := by
      rintro rfl
      exact absurd (h _ rfl) (by decide)
    rw [enclosed, List.cons_append, replaceAll_cons_of_ne hn]
    exact h

theorem Shows.fault?_eq_none {a b : Address} {scheme user password place : Points}
    (ha : a.Shows scheme user password place) (hb : b.Shows scheme user stars place)
    (hinfo : ∀ info ∈ a.userInfo?, IsUnbracketed info) (hfault : a.fault? = none) :
    b.fault? = none := by
  have hold := hinfo _ ha.userInfo
  have hnew : IsUnbracketed (user ++ ':'.toNat :: stars) := by
    intro n hn
    rcases List.mem_append.1 hn with hn | hn
    · exact hold n (List.mem_append_left _ hn)
    · exact (by decide : IsUnbracketed (':'.toNat :: stars)) n hn
  have hplace : b.place = a.place := hb.place.trans ha.place.symm
  refine fault?_eq_none_of_subset hfault
    (bracketFault?_eq_of_place ha.userInfo hold hb.userInfo hnew hplace) fun n hn => ?_
  have hsmall : ∀ m ∈ '@'.toNat :: ':'.toNat :: stars, m < 128 := by decide
  rw [(authority_of_userInfo? hb.userInfo).1, hplace] at hn
  rw [(authority_of_userInfo? ha.userInfo).1]
  simp only [List.mem_append, List.mem_cons] at hn hsmall ⊢
  rcases hn with (hn | hn) | hn | hn
  · exact Or.inl (Or.inl (Or.inl hn))
  · exact Or.inr (hsmall n (Or.inr hn))
  · exact Or.inl (Or.inr (Or.inl hn))
  · exact Or.inl (Or.inr (Or.inr hn))

theorem exists_isMaskOf {p password : Points} {a : Address}
    (hstart : p.head?.all (!isControl ·) = true)
    (hline : ∀ n ∈ p, isPointOf isLineControl n = false) (ha : ofPoints p = .ok a)
    (hinfo : ∀ info ∈ a.userInfo?, IsUnbracketed info) (hpassword : a.password? = some password)
    (hne : password ≠ []) :
    ∃ masked b, mask p = .ok masked ∧ ofPoints masked = .ok b ∧ b.IsMaskOf a := by
  obtain ⟨hfault, hparts⟩ := ofPoints_eq_ok_iff.1 ha
  rw [hparts] at hfault
  obtain ⟨front, user, rest, hp, hold, hopens, hrest, huser, hplace, hopen⟩ :=
    exists_shows (cleaned_eq_self hstart hline) hparts hpassword
  have hpassword_open : ∀ n ∈ password, endsAuthority n = false := fun n hn =>
    hopen n (by simp [mem_enclosed, hn])
  have hmask := replaceAll_enclosed hopens huser hpassword_open hplace hrest (enclosed stars)
  rw [← hp] at hmask
  -- What is written is read as it stands, since nothing in it is dropped or ends the authority.
  have huser_open : ∀ n ∈ user, isPoint ':' n = false ∧ endsAuthority n = false := fun n hn =>
    ⟨huser n hn, hopen n (by simp [hn])⟩
  have hstars_open : ∀ n ∈ stars, endsAuthority n = false := by decide
  have hshows := hopens.shows huser_open hstars_open hplace
    (hrest.replaceAll password (enclosed stars))
  have huser_line : unbroken user = user :=
    unbroken_eq_self_iff.2 fun n hn => hline n (by simp [hp, hn])
  have hplace_line : unbroken a.place = a.place :=
    unbroken_eq_self_iff.2 fun n hn => hline n (by simp [hp, hn])
  have hplace_open : a.place.takeWhile (!endsAuthority ·) = a.place :=
    List.takeWhile_eq_self_iff.2 fun n hn => by simp [hopen n (by simp [hn])]
  have hstars : unbroken stars = stars := by decide
  rw [huser_line, hplace_line, hplace_open, hstars] at hshows
  refine ⟨_, _, (mask_of_password ha hpassword hne).trans (congrArg _ hmask),
    ofPoints_eq_ok_iff.2 ⟨hold.fault?_eq_none hshows hinfo hfault, rfl⟩, ?_⟩
  exact ⟨hshows.password, hshows.scheme, hshows.user.trans hold.user.symm, hshows.place⟩

/-- Masking replaces the password, if there is one, and nothing else of the authority, and there is
nothing left that masking again would replace. -/
theorem mask_specified {p : Points} {a : Address} (hstart : p.head?.all (!isControl ·) = true)
    (hline : ∀ n ∈ p, isPointOf isLineControl n = false) (ha : ofPoints p = .ok a)
    (hinfo : ∀ info ∈ a.userInfo?, IsUnbracketed info) :
    ∃ masked, mask p = .ok masked ∧ mask masked = .ok masked ∧
      ((∃ password, a.password? = some password ∧ password ≠ []) →
        ∃ b, ofPoints masked = .ok b ∧ b.IsMaskOf a) ∧
      ((¬ ∃ password, a.password? = some password ∧ password ≠ []) → masked = p) := by
  by_cases h : ∃ password, a.password? = some password ∧ password ≠ []
  · obtain ⟨password, hpassword, hne⟩ := h
    obtain ⟨masked, b, hmask, hb, hmaskOf⟩ :=
      exists_isMaskOf hstart hline ha hinfo hpassword hne
    exact ⟨masked, hmask, mask_of_stars hb hmaskOf.password, fun _ => ⟨b, hb, hmaskOf⟩,
      fun hnone => absurd ⟨password, hpassword, hne⟩ hnone⟩
  · have hmask : mask p = .ok p := mask_of_no_password ha fun password hpassword =>
      by_contra fun hne => h ⟨password, hpassword, hne⟩
    exact ⟨p, hmask, hmask, fun hsome => absurd hsome h, fun _ => rfl⟩

theorem password_of_database_masked :
    ofPoints "sql://db:d:b@db@db:5432/db?:d:b@db@" = .ok ⟨"sql", "db:d:b@db@db:5432", "/db"⟩ ∧
    ∃ masked b, mask "sql://db:d:b@db@db:5432/db?:d:b@db@" = .ok masked ∧
      mask masked = .ok masked ∧ ofPoints masked = .ok b ∧
      b.IsMaskOf ⟨"sql", "db:d:b@db@db:5432", "/db"⟩ := by
  have ha : ofPoints "sql://db:d:b@db@db:5432/db?:d:b@db@" =
      .ok ⟨"sql", "db:d:b@db@db:5432", "/db"⟩ := by decide
  obtain ⟨masked, hmask, hagain, hsome, -⟩ :=
    mask_specified (by decide) (by decide) ha (by decide)
  obtain ⟨b, hb, hmaskOf⟩ := hsome ⟨"d:b@db", by decide, by decide⟩
  exact ⟨ha, masked, b, hmask, hagain, hb, hmaskOf⟩

example : mask "sql://db:d:b@db@db:5432/db?:d:b@db@" = .ok "sql://db:****@db:5432/db?:****@" := by
  decide

end Stockroom.Address
