import Stockroom.Http.Origin
import Stockroom.Proofs.Address

/-!
# Requests that can be named

The address of a request can be split if its scheme is a known one and its host is well formed,
whatever stands in its path and in its query string. So the log can name such a request.
-/

namespace Stockroom

open Http Text

/-! ## Hosts -/

/-- A point of a host: visible, in ASCII, and none of those for `#`, `/`, `?` and `@`. -/
def IsHostPoint (n : Nat) : Prop := 32 < n ∧ n < 128 ∧ n ≠ 35 ∧ n ≠ 47 ∧ n ≠ 63 ∧ n ≠ 64

instance (n : Nat) : Decidable (IsHostPoint n) :=
  inferInstanceAs (Decidable (32 < n ∧ n < 128 ∧ n ≠ 35 ∧ n ≠ 47 ∧ n ≠ 63 ∧ n ≠ 64))

def IsBracket (c : Char) : Prop := c = '[' ∨ c = ']'

instance (c : Char) : Decidable (IsBracket c) := inferInstanceAs (Decidable (c = '[' ∨ c = ']'))

namespace Http

theorem isHostPoint_of_isHostChar {c : Char} (h : isHostChar c = true) :
    IsHostPoint c.toNat ∧ ¬ IsBracket c := by
  rw [isHostChar, Bool.or_eq_true, List.contains_iff_mem] at h
  rcases h with h | h
  · have hc := toNat_of_isAlphanum h
    refine ⟨⟨by omega, by omega, by omega, by omega, by omega, by omega⟩, ?_⟩
    rintro (rfl | rfl) <;> simp at hc
  · have hmarks : (hostMarks.all fun c => decide (IsHostPoint c.toNat ∧ ¬ IsBracket c)) = true := by
      decide
    exact of_decide_eq_true (List.all_eq_true.1 hmarks c h)

theorem isHostChar_of_isHostNumber {s : List Char} (h : isHostNumber s = true) {c : Char}
    (hc : c ∈ s) : isHostChar c = true := by
  simp only [isHostNumber, Bool.and_eq_true, List.all_eq_true] at h
  rw [isHostChar, Char.isAlphanum, h.1.2 c hc, Bool.or_true, Bool.true_or]

theorem isHostPoint_of_isPlainHost {s : List Char} (h : isPlainHost s = true) {c : Char}
    (hc : c ∈ s) : IsHostPoint c.toNat ∧ ¬ IsBracket c := by
  have hname : ∀ d : Char, (isHostChar d || d == '%') = true →
      IsHostPoint d.toNat ∧ ¬ IsBracket d := by
    intro d hd
    rcases Bool.or_eq_true _ _ ▸ hd with hd | hd
    · exact isHostPoint_of_isHostChar hd
    · rw [beq_iff_eq.1 hd]
      decide
  unfold isPlainHost at h
  rcases splitFirst_cases (· == ':') s with ⟨-, hsplit⟩ | ⟨front, d, rest, rfl, -, hd, hsplit⟩
  · rw [hsplit] at h
    simp only [Bool.and_eq_true, List.all_eq_true] at h
    exact hname c (h.1.2 c hc)
  · rw [hsplit] at h
    simp only [Bool.and_eq_true, List.all_eq_true, Option.all_some] at h
    rw [List.mem_append, List.mem_cons] at hc
    rcases hc with hc | rfl | hc
    · exact hname c (h.1.2 c hc)
    · rw [beq_iff_eq.1 hd]
      decide
    · exact isHostPoint_of_isHostChar (isHostChar_of_isHostNumber h.2 hc)

theorem exists_of_isBracketedHost {s : List Char} (h : isBracketedHost s = true) :
    ∃ inner behind, s = inner ++ ']' :: behind ∧
      (∀ c ∈ inner, IsHostPoint c.toNat ∧ ¬ IsBracket c) ∧
      (∀ c ∈ behind, IsHostPoint c.toNat ∧ ¬ IsBracket c) ∧
      (behind = [] ∨ behind.head? = some ':') ∧
      Address.hostFault? (inner.map Char.toNat) = none := by
  have hcolon : IsHostPoint (':').toNat ∧ ¬ IsBracket ':' := by decide
  unfold isBracketedHost at h
  rcases splitFirst_cases (· == ']') s with ⟨-, hsplit⟩ | ⟨inner, d, behind, rfl, -, hd, hsplit⟩
  · rw [hsplit] at h
    simp at h
  · rw [hsplit] at h
    simp only [Bool.and_eq_true, List.all_eq_true, Option.isNone_iff_eq_none] at h
    obtain ⟨⟨hinner, hfault⟩, hbehind⟩ := h
    refine ⟨inner, behind, by rw [beq_iff_eq.1 hd], fun c hc => ?_, ?_, ?_, hfault⟩
    · rcases Bool.or_eq_true _ _ ▸ hinner c hc with hc | hc
      · exact isHostPoint_of_isHostChar hc
      · rw [beq_iff_eq.1 hc]
        exact hcolon
    · split at hbehind
      · next heq =>
        obtain rfl := Option.some.inj heq
        exact fun _ hc => absurd hc List.not_mem_nil
      · next number heq =>
        obtain rfl := Option.some.inj heq
        refine List.forall_mem_cons.2 ⟨hcolon, fun c hc => ?_⟩
        exact isHostPoint_of_isHostChar (isHostChar_of_isHostNumber hbehind hc)
      · cases hbehind
    · split at hbehind
      · next heq => exact Or.inl (Option.some.inj heq)
      · next number heq =>
        obtain rfl := Option.some.inj heq
        exact Or.inr rfl
      · cases hbehind

theorem isHostPoint_of_isHost {s : List Char} (h : isHost s = true) {c : Char} (hc : c ∈ s) :
    IsHostPoint c.toNat := by
  unfold isHost at h
  split at h
  · next rest =>
    obtain ⟨inner, behind, rfl, hinner, hbehind, -⟩ := exists_of_isBracketedHost h
    rw [List.mem_cons, List.mem_append, List.mem_cons] at hc
    rcases hc with rfl | hc | rfl | hc
    · decide
    · exact (hinner c hc).1
    · decide
    · exact (hbehind c hc).1
  · exact (isHostPoint_of_isPlainHost h hc).1

end Http

/-! ## Authorities -/

namespace Address

open Http

theorem isPoint_toNat (c d : Char) : isPoint c d.toNat = (d == c) := by
  rw [isPoint, Bool.eq_iff_iff, beq_iff_eq, beq_iff_eq, Char.toNat_inj]

theorem any_isPoint_eq_false {s : List Char} {c : Char} (h : c ∉ s) :
    (s.map Char.toNat).any (isPoint c) = false := by
  rw [List.any_map, List.any_eq_false]
  intro d hd
  rw [Function.comp_apply, isPoint_toNat, beq_iff_eq]
  exact fun hcd => h (hcd ▸ hd)

theorem splitFirst_map {front : List Char} (rest : List Char) {c : Char} (hc : c ∉ front) :
    splitFirst (isPoint c) ((front ++ c :: rest).map Char.toNat) =
      (front.map Char.toNat, some (rest.map Char.toNat)) := by
  rw [List.map_append, List.map_cons]
  refine splitFirst_append (fun n hn => ?_) (beq_self_eq_true c.toNat)
  obtain ⟨d, hd, rfl⟩ := List.mem_map.1 hn
  rw [isPoint_toNat, beq_eq_false_iff_ne]
  exact fun hdc => hc (hdc ▸ hd)

theorem bracketedHost_eq {inner behind : List Char} (hinner : ']' ∉ inner)
    (hbehind : behind = [] ∨ behind.head? = some ':') :
    bracketedHost (('[' :: (inner ++ ']' :: behind)).map Char.toNat) =
      .ok (inner.map Char.toNat) := by
  have hopen := splitFirst_map (inner ++ ']' :: behind) (List.not_mem_nil (a := '['))
  rw [List.nil_append] at hopen
  unfold bracketedHost
  rw [hopen]
  dsimp only
  rw [splitFirst_map behind hinner]
  refine if_pos ?_
  rcases hbehind with rfl | hhead
  · rfl
  · simp [hhead, isPoint]

theorem fault?_eq_none_of_isHost {host : List Char} (h : isHost host = true)
    (scheme path : Points) : fault? ⟨scheme, host.map Char.toNat, path⟩ = none := by
  have hpoint (n : Nat) (hn : n ∈ host.map Char.toNat) : IsHostPoint n := by
    obtain ⟨c, hc, rfl⟩ := List.mem_map.1 hn
    exact isHostPoint_of_isHost h hc
  have hplace : place ⟨scheme, host.map Char.toNat, path⟩ = host.map Char.toNat := by
    rw [place, splitLast_of_none]
    intro n hn
    rw [isPoint, beq_eq_false_iff_ne]
    exact (hpoint n hn).2.2.2.2.2
  have hbrackets : bracketFault? ⟨scheme, host.map Char.toNat, path⟩ = none := by
    unfold isHost at h
    split at h
    · next rest =>
      obtain ⟨inner, behind, rfl, hinner, -, hbehind, hfault⟩ := exists_of_isBracketedHost h
      have hopen : (('[' :: (inner ++ ']' :: behind)).map Char.toNat).any (isPoint '[') = true := by
        simp [isPoint]
      have hclose :
          (('[' :: (inner ++ ']' :: behind)).map Char.toNat).any (isPoint ']') = true := by
        simp [isPoint]
      have hhost := bracketedHost_eq (fun hc => (hinner ']' hc).2 (Or.inr rfl)) hbehind
      rw [bracketFault?, hopen, hclose, hplace]
      dsimp only
      rw [hhost]
      dsimp only
      rw [hfault]
      rfl
    · have hnone (c : Char) (hc : IsBracket c) : c ∉ host :=
        fun hmem => (isHostPoint_of_isPlainHost h hmem).2 hc
      rw [bracketFault?, any_isPoint_eq_false (hnone '[' (Or.inl rfl)),
        any_isPoint_eq_false (hnone ']' (Or.inr rfl))]
  rw [fault?, hbrackets]
  refine if_neg ?_
  rw [Bool.not_eq_true, List.any_eq_false]
  intro n hn hdisguised
  have hbig : ∀ m ∈ disguised, 128 ≤ m := by decide
  have := hbig n (List.contains_iff_mem.1 hdisguised)
  have := (hpoint n hn).2.1
  omega

theorem exists_parts_of_isHostPoint {scheme host : Points} (hscheme : IsScheme scheme)
    (hhost : ∀ n ∈ host, IsHostPoint n) (rest : Points) :
    ∃ path, parts (scheme ++ [':'.toNat, slash, slash] ++ (host ++ slash :: rest)) =
      ⟨scheme.map lowerPoint, host, path⟩ := by
  have hopen : ∀ n ∈ host, endsAuthority n = false := by
    intro n hn
    obtain ⟨-, -, hhash, hslash, hquery, -⟩ := hhost n hn
    rw [← Bool.not_eq_true, endsAuthority_eq_true_iff]
    rintro (rfl | rfl | rfl)
    · exact hslash rfl
    · exact hquery rfl
    · exact hhash rfl
  have hkept : unbroken host = host :=
    unbroken_eq_self_iff.2 fun n hn => isPointOf_isLineControl (hhost n hn).1
  have hrest : Follows (slash :: rest) := by
    rintro n ⟨⟩
    decide
  obtain ⟨path, hparts⟩ := (Opens.named hscheme).exists_parts_append hopen hrest
  rw [hkept] at hparts
  exact ⟨path, hparts⟩

end Address

/-! ## Requests -/

namespace Http

/-- A request with a known scheme that names a host. -/
structure Request.IsAddressed (r : Request) : Prop where
  scheme : (standardNumber? r.scheme).isSome = true
  host : ∃ host, r.authority = .ok host ∧ isHost host.toList = true

theorem isScheme_of_standardNumber? {scheme : String}
    (h : (standardNumber? scheme).isSome = true) : Address.IsScheme (points scheme) := by
  have hall : ∀ p ∈ [("http", (80 : Int)), ("https", 443), ("ws", 80), ("wss", 443)],
      Address.IsScheme (points p.1) := by decide
  obtain ⟨standard, hstandard⟩ := Option.isSome_iff_exists.1 h
  obtain ⟨before, later, heq, -⟩ := List.lookup_eq_some_iff.1 hstandard
  exact hall (scheme, standard) (heq ▸ List.mem_append_right _ List.mem_cons_self)

theorem Request.IsAddressed.exists_subject {r : Request} (hr : r.IsAddressed)
    (hpath : r.target.path.toList.head? = some '/') : ∃ subject, r.subject = .ok subject := by
  obtain ⟨host, hauthority, hhost⟩ := hr.host
  have hscheme := isScheme_of_standardNumber? hr.scheme
  have hnamed : r.scheme ≠ "" := fun heq => by
    rw [heq] at hscheme
    exact absurd hscheme (by decide)
  obtain ⟨tail, hpath⟩ : ∃ tail, r.target.path.toList = '/' :: tail := by
    cases hlist : r.target.path.toList with
    | nil => simp [hlist] at hpath
    | cons c tail =>
      rw [hlist, List.head?_cons, Option.some.injEq] at hpath
      exact ⟨tail, by rw [hpath]⟩
  obtain ⟨text, htext, rest, hrest⟩ : ∃ text, r.address r.target = .ok text ∧ ∃ rest,
      points text = points r.scheme ++ [':'.toNat, Address.slash, Address.slash] ++
        (points host ++ Address.slash :: rest) := by
    rw [Request.address, hauthority]
    refine ⟨_, rfl, ?_⟩
    rw [schemePart, if_neg hnamed, Target.closedPath, hpath]
    simp only [points_append]
    simp [points, Address.slash]
  have hhostPoints (n : Nat) (hn : n ∈ points host) : IsHostPoint n := by
    obtain ⟨c, hc, rfl⟩ := List.mem_map.1 hn
    exact isHostPoint_of_isHost hhost hc
  obtain ⟨path, hparts⟩ := Address.exists_parts_of_isHostPoint hscheme hhostPoints rest
  have hsplit : Address.ofPoints text =
      .ok ⟨(points r.scheme).map Address.lowerPoint, points host, path⟩ := by
    rw [Address.ofPoints, hrest, hparts]
    have hfault := Address.fault?_eq_none_of_isHost hhost
      ((points r.scheme).map Address.lowerPoint) path
    rw [← points] at hfault
    rw [hfault]
  have hshown : r.shownPath = .ok path := by
    rw [Request.shownPath, htext]
    dsimp only
    rw [hsplit]
  exact ⟨_, by rw [Request.subject, hshown]; rfl⟩

end Http

end Stockroom
