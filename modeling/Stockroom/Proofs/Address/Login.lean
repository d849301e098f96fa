import Stockroom.Proofs.Address.Mask

/-!
# Addresses of databases

An engine reads the password of a database up to the first at sign, whatever stands in it. `mask`
reads it from the authority, which has to follow a scheme, which a slash, a question mark or a
number sign ends, and from which line controls are missing. So the log shows a password if the
scheme, the user or the password itself has something that an engine takes and an address does not.
-/

namespace Stockroom.Address

open Text

/-- The parts of the address of a database, as an engine tells them apart. -/
structure Login where
  scheme : Points
  user : Points
  password : Points
  host : Points
  port? : Option Points := none
  database? : Option Points := none
  query? : Option Points := none
  scheme_plain : ∀ n ∈ scheme, 32 < n ∧ n ≠ ':'.toNat ∧ n ≠ slash ∧ n ≠ '@'.toNat
  user_plain : ∀ n ∈ user, n ≠ ':'.toNat ∧ n ≠ slash ∧ n ≠ '@'.toNat
  password_ne_nil : password ≠ []
  password_plain : ∀ n ∈ password, n ≠ '@'.toNat
  host_plain : ∀ n ∈ host, n ≠ '@'.toNat
  port_plain : ∀ port ∈ port?, ∀ n ∈ port, n ≠ '@'.toNat

namespace Login

/-- The address up to the at sign, with a given password. -/
def front (l : Login) (password : Points) : Points :=
  l.scheme ++ [':'.toNat, slash, slash] ++ (l.user ++ enclosed password)

/-- A part with the character that announces it. -/
def announced (mark : Char) : Option Points → Points
  | none => []
  | some part => mark.toNat :: part

def place (l : Login) : Points := l.host ++ announced ':' l.port?

def rest (l : Login) : Points := announced '/' l.database? ++ announced '?' l.query?

def text (l : Login) : Points := l.front l.password ++ (l.place ++ l.rest)

/-- The user and the password stand in the authority as they are. -/
structure IsRead (l : Login) : Prop where
  scheme : IsScheme l.scheme
  user : ∀ n ∈ l.user, endsAuthority n = false
  password : ∀ n ∈ l.password, endsAuthority n = false
  line : ∀ n ∈ l.password, isPointOf isLineControl n = false

variable (l : Login)

theorem user_colon : ∀ n ∈ l.user, isPoint ':' n = false := fun n hn =>
  isPoint_eq_false_iff.2 (l.user_plain n hn).1

theorem info_plain : ∀ n ∈ l.user ++ ':'.toNat :: l.password, isPoint '@' n = false := by
  intro n hn
  rw [isPoint_eq_false_iff]
  rcases List.mem_append.1 hn with hn | hn
  · exact (l.user_plain n hn).2.2
  · exact List.forall_mem_cons.2 ⟨by decide, l.password_plain⟩ n hn

theorem place_plain : ∀ n ∈ l.place, isPoint '@' n = false := by
  intro n hn
  rw [isPoint_eq_false_iff]
  rcases List.mem_append.1 hn with hn | hn
  · exact l.host_plain n hn
  · cases hport : l.port? with
    | none => simp [hport, announced] at hn
    | some port =>
      rw [hport, announced, List.mem_cons] at hn
      rcases hn with rfl | hn
      · decide
      · exact l.port_plain port hport n hn

theorem follows_rest : Follows l.rest := by
  unfold Follows rest
  cases l.database? with
  | some database =>
    intro n hn
    rw [announced, List.cons_append, List.head?_cons, Option.mem_some_iff] at hn
    rw [← hn]
    decide
  | none =>
    cases l.query? with
    | some query =>
      intro n hn
      rw [announced, announced, List.nil_append, List.head?_cons, Option.mem_some_iff] at hn
      rw [← hn]
      decide
    | none =>
      intro n hn
      cases hn

theorem front_append (password behind : Points) : l.front password ++ behind =
    l.scheme ++ [':'.toNat, slash, slash] ++ (l.user ++ (enclosed password ++ behind)) := by
  simp [front]

theorem exists_before : ∃ before, l.front l.password = before ++ ['@'.toNat] ∧
    (∀ n ∈ before, isPoint '@' n = false) ∧ l.password <:+ before := by
  refine ⟨l.scheme ++ [':'.toNat, slash, slash] ++ (l.user ++ ':'.toNat :: l.password), ?_, ?_, ?_⟩
  · simp [front, enclosed]
  · intro n hn
    rcases List.mem_append.1 hn with hn | hn
    · rcases List.mem_append.1 hn with hn | hn
      · exact isPoint_eq_false_iff.2 (l.scheme_plain n hn).2.2.2
      · exact (by decide : ∀ n ∈ [':'.toNat, slash, slash], isPoint '@' n = false) n hn
    · exact l.info_plain n hn
  · exact ⟨l.scheme ++ [':'.toNat, slash, slash] ++ (l.user ++ [':'.toNat]), by simp⟩

theorem eq_of_front_prefix {password new out : Points} (hpassword : ∀ n ∈ password, n ≠ '@'.toNat)
    (hnew : ∀ n ∈ new, n ≠ '@'.toNat) (h : l.front password <+: out)
    (h' : l.front new <+: out) : password = new := by
  obtain ⟨behind, rfl⟩ := h
  obtain ⟨behind', heq⟩ := h'
  simp only [front, enclosed, List.append_assoc, List.cons_append, List.nil_append,
    List.append_cancel_left_eq, List.cons.injEq, true_and] at heq
  have hsplit := congrArg (splitFirst (isPoint '@')) heq
  rw [splitFirst_append (fun n hn => isPoint_eq_false_iff.2 (hnew n hn)) (by decide),
    splitFirst_append (fun n hn => isPoint_eq_false_iff.2 (hpassword n hn)) (by decide)] at hsplit
  exact (Prod.mk.inj hsplit).1.symm

/-! ## Passwords that are read -/

variable {l}

theorem opens (h : IsScheme l.scheme) :
    Opens (l.scheme.map lowerPoint) (l.scheme ++ [':'.toNat, slash, slash]) :=
  .named h

theorem IsRead.exists_masked (h : l.IsRead) {a : Address} (ha : ofPoints l.text = .ok a) :
    ∃ behind, mask l.text = .ok (l.front stars ++ (l.place ++ behind)) := by
  have hopens := opens h.scheme
  have hshows := hopens.shows (fun n hn => ⟨l.user_colon n hn, h.user n hn⟩) h.password
    l.place_plain l.follows_rest
  rw [← front_append, ← text, (ofPoints_eq_ok_iff.1 ha).2, unbroken_eq_self_iff.2 h.line] at hshows
  have hmask := replaceAll_enclosed hopens l.user_colon h.password l.place_plain l.follows_rest
    (enclosed stars)
  rw [← front_append, ← front_append, ← text] at hmask
  exact ⟨_, (mask_of_password ha hshows.password l.password_ne_nil).trans (congrArg _ hmask)⟩

/-! ## Passwords that are missed -/

theorem authority_eq_nil (h : ¬ IsScheme l.scheme) : (parts l.text).authority = [] := by
  have hvisible : ∀ n ∈ l.scheme ++ [':'.toNat, slash, slash], 32 < n := by
    intro n hn
    rcases List.mem_append.1 hn with hn | hn
    · exact (l.scheme_plain n hn).1
    · exact (by decide : ∀ n ∈ [':'.toNat, slash, slash], 32 < n) n hn
  have hcolon : ∀ n ∈ l.scheme, isPoint ':' n = false := fun n hn =>
    isPoint_eq_false_iff.2 (l.scheme_plain n hn).2.1
  have hslash (q : Points) : [slash, slash].isPrefixOf (l.scheme ++ ':'.toNat :: q) = false := by
    rw [← Bool.not_eq_true, List.isPrefixOf_iff_prefix]
    intro hprefix
    cases hscheme : l.scheme with
    | nil =>
      rw [hscheme] at hprefix
      exact absurd (List.cons_prefix_cons.1 hprefix).1 (by decide)
    | cons n scheme =>
      rw [hscheme, List.cons_append] at hprefix
      exact (l.scheme_plain n (by simp [hscheme])).2.2.1 (List.cons_prefix_cons.1 hprefix).1.symm
  unfold parts
  rw [text, front_append, cleaned_append (by simp) hvisible]
  simp only [List.append_assoc, List.cons_append, List.nil_append,
    splitScheme_of_not_isScheme hcolon h]
  unfold splitAuthority
  rw [hslash]
  rfl

theorem authority_plain (h : IsScheme l.scheme) {n : Nat}
    (hn : n ∈ l.user ++ ':'.toNat :: l.password) (hends : endsAuthority n = true) :
    ∀ m ∈ (parts l.text).authority, isPoint '@' m = false := by
  have hsplit : l.user ++ (enclosed l.password ++ (l.place ++ l.rest)) =
      (l.user ++ ':'.toNat :: l.password) ++ '@'.toNat :: (l.place ++ l.rest) := by
    simp [enclosed]
  have hkept : n ∈ unbroken (l.user ++ ':'.toNat :: l.password) := by
    refine List.mem_filter.2 ⟨hn, ?_⟩
    rw [isPointOf_isLineControl (lt_of_endsAuthority hends), Bool.not_false]
  obtain ⟨path, hparts⟩ :=
    (opens h).exists_parts (l.user ++ (enclosed l.password ++ (l.place ++ l.rest)))
  rw [hsplit, unbroken_append, takeWhile_append_of_mem hkept hends, ← hsplit, ← front_append,
    ← text] at hparts
  rw [hparts]
  intro m hm
  exact l.info_plain m (mem_unbroken ((List.takeWhile_prefix _).mem hm))

/-- No password with line controls ends in what is left without them, behind a colon. -/
theorem not_suffix_unbroken (q : Points) : ¬ ':'.toNat :: unbroken q <:+ q := by
  rintro ⟨front, hq⟩
  have hlength := congrArg (fun p => (unbroken p).length) hq
  have hagain : unbroken (unbroken q) = unbroken q := by
    rw [unbroken, unbroken, List.filter_filter]
    simp only [Bool.and_self]
  simp only [unbroken_append, unbroken_cons (by decide : 32 < ':'.toNat), hagain,
    List.length_append, List.length_cons] at hlength
  omega

theorem replaceAll_broken (hopen : ∀ n ∈ l.password, endsAuthority n = false)
    (hbroken : unbroken l.password ≠ l.password) (new : Points) :
    ∃ behind, replaceAll (enclosed (unbroken l.password)) new l.text =
      l.front l.password ++ (l.place ++ behind) := by
  obtain ⟨before, hfront, hbefore, hpassword⟩ := l.exists_before
  have hword : ∀ n ∈ ':'.toNat :: unbroken l.password, isPoint '@' n = false :=
    List.forall_mem_cons.2 ⟨by decide, fun n hn =>
      isPoint_eq_false_iff.2 (l.password_plain n (mem_unbroken hn))⟩
  have hshort : (':'.toNat :: unbroken l.password).length ≤ l.password.length := by
    have hle : (unbroken l.password).length ≤ l.password.length := List.length_filter_le _ _
    have hne : (unbroken l.password).length ≠ l.password.length := fun heq =>
      hbroken (List.filter_sublist.eq_of_length heq)
    rw [List.length_cons]
    omega
  have hnone : ∀ back, back ≠ [] → back <:+ l.front l.password →
      ¬ enclosed (unbroken l.password) <+: back ++ (l.place ++ l.rest) := by
    rintro back hne hback ⟨behind, hbehind⟩
    rw [hfront, List.suffix_concat_iff] at hback
    obtain ⟨back, rfl, hin⟩ := hback.resolve_left hne
    -- The at sign of the occurrence is the first one, so it is the one behind the password.
    have heq := congrArg (splitFirst (isPoint '@')) hbehind
    rw [enclosed, List.append_assoc, List.append_assoc, List.singleton_append,
      List.singleton_append, splitFirst_append hword (by decide),
      splitFirst_append (fun n hn => hbefore n (hin.mem hn)) (by decide)] at heq
    obtain rfl := (Prod.mk.inj heq).1
    exact not_suffix_unbroken l.password (List.suffix_of_suffix_length_le hin hpassword hshort)
  refine ⟨replaceAll (enclosed (unbroken l.password)) new l.rest, ?_⟩
  rw [text, replaceAll_append_of_forall hnone,
    replaceAll_place (fun n hn => hopen n (mem_unbroken hn)) l.place_plain l.follows_rest]

theorem exists_shown_of_broken (hscheme : IsScheme l.scheme)
    (huser : ∀ n ∈ l.user, endsAuthority n = false)
    (hopen : ∀ n ∈ l.password, endsAuthority n = false)
    (hbroken : unbroken l.password ≠ l.password) {a : Address} (ha : ofPoints l.text = .ok a) :
    ∃ behind, mask l.text = .ok (l.front l.password ++ (l.place ++ behind)) := by
  have hshows := (opens hscheme).shows (fun n hn => ⟨l.user_colon n hn, huser n hn⟩) hopen
    l.place_plain l.follows_rest
  rw [← front_append, ← text, (ofPoints_eq_ok_iff.1 ha).2] at hshows
  by_cases hempty : unbroken l.password = []
  · refine ⟨l.rest, mask_of_no_password ha fun password hpassword => ?_⟩
    rw [hshows.password, hempty] at hpassword
    exact (Option.some.inj hpassword).symm
  · obtain ⟨behind, hbehind⟩ := replaceAll_broken hopen hbroken (enclosed stars)
    exact ⟨behind, (mask_of_password ha hshows.password hempty).trans (congrArg _ hbehind)⟩

theorem exists_shown (h : ¬ l.IsRead) {a : Address} (ha : ofPoints l.text = .ok a) :
    ∃ behind, mask l.text = .ok (l.front l.password ++ (l.place ++ behind)) := by
  have hkept (hnone : ∀ n ∈ (parts l.text).authority, isPoint '@' n = false) :
      ∃ behind, mask l.text = .ok (l.front l.password ++ (l.place ++ behind)) := by
    rw [(ofPoints_eq_ok_iff.1 ha).2] at hnone
    exact ⟨l.rest, mask_of_no_userInfo ha hnone⟩
  by_cases hscheme : IsScheme l.scheme
  · by_cases hinfo : ∀ n ∈ l.user ++ ':'.toNat :: l.password, endsAuthority n = false
    · have huser : ∀ n ∈ l.user, endsAuthority n = false := fun n hn => hinfo n (by simp [hn])
      have hopen : ∀ n ∈ l.password, endsAuthority n = false := fun n hn => hinfo n (by simp [hn])
      refine exists_shown_of_broken hscheme huser hopen (fun heq => h ?_) ha
      exact ⟨hscheme, huser, hopen, unbroken_eq_self_iff.1 heq⟩
    · simp only [not_forall, Bool.not_eq_false] at hinfo
      obtain ⟨n, hn, hends⟩ := hinfo
      exact hkept (authority_plain hscheme hn hends)
  · rw [authority_eq_nil hscheme] at hkept
    exact hkept fun n hn => absurd hn List.not_mem_nil

end Login

/-- If its address can be split, the log shows stars for the password of a login that is read as it
is written, and the password of any other. -/
theorem login_hidden_iff (l : Login) :
    ((∃ out, mask l.text = .ok out ∧ l.front stars ++ l.host <+: out) ↔
      (∃ a, ofPoints l.text = .ok a) ∧ (l.password = stars ∨ l.IsRead)) ∧
    ∀ out, mask l.text = .ok out → ¬ l.IsRead → l.front l.password ++ l.host <+: out := by
  have hhost (password behind : Points) :
      l.front password ++ l.host <+: l.front password ++ (l.place ++ behind) :=
    List.prefix_append_right_inj _ |>.2 ⟨_, by rw [Login.place, List.append_assoc]⟩
  have hshown : ∀ out, mask l.text = .ok out → ¬ l.IsRead →
      l.front l.password ++ l.host <+: out := by
    intro out hout h
    obtain ⟨a, ha⟩ := exists_ofPoints_of_mask hout
    obtain ⟨behind, hmask⟩ := Login.exists_shown h ha
    obtain rfl := Except.ok.inj (hout.symm.trans hmask)
    exact hhost _ _
  refine ⟨⟨?_, ?_⟩, hshown⟩
  · rintro ⟨out, hout, hprefix⟩
    refine ⟨exists_ofPoints_of_mask hout, ?_⟩
    by_cases h : l.IsRead
    · exact Or.inr h
    · exact Or.inl (l.eq_of_front_prefix l.password_plain (by decide)
        ((List.prefix_append _ _).trans (hshown out hout h))
        ((List.prefix_append _ _).trans hprefix))
  · rintro ⟨⟨a, ha⟩, h⟩
    by_cases hread : l.IsRead
    · obtain ⟨behind, hmask⟩ := hread.exists_masked ha
      exact ⟨_, hmask, hhost _ _⟩
    · obtain ⟨behind, hmask⟩ := Login.exists_shown hread ha
      rw [h.resolve_right hread] at hmask
      exact ⟨_, hmask, hhost _ _⟩

/-- A slash in the password, which an engine takes for a part of it. -/
def slashedLogin : Login where
  scheme := "postgresql"
  user := "shop"
  password := "pa/ss"
  host := "db"
  database? := some "sales"
  scheme_plain := by decide
  user_plain := by decide
  password_ne_nil := by decide
  password_plain := by decide
  host_plain := by decide
  port_plain := by decide

theorem slashed_password_shown :
    slashedLogin.text = points "postgresql://shop:pa/ss@db/sales" ∧
    mask slashedLogin.text = .ok slashedLogin.text ∧
    ¬ ∃ out, mask slashedLogin.text = .ok out ∧
      slashedLogin.front stars ++ slashedLogin.host <+: out := by
  have hmask : mask slashedLogin.text = .ok slashedLogin.text := by decide
  refine ⟨by decide, hmask, ?_⟩
  rintro ⟨out, hout, hprefix⟩
  obtain rfl := Except.ok.inj (hmask.symm.trans hout)
  revert hprefix
  decide

end Stockroom.Address
