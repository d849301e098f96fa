import Stockroom.Text.Quoted

/-!
# Surrogates in a text

UTF-8 has no bytes for a surrogate. A text with surrogates is refused where its bytes are needed,
and the first run of them is named. Every other text is a string.
-/

namespace Stockroom.Text

/-- Surrogates next to each other: the first of them, its place in the text, and how many. -/
structure SurrogateRun where
  first : Nat
  start : Nat
  length : Nat
  deriving DecidableEq

/-- The first run of surrogates in a text, which keeps it from being encoded. -/
def surrogateRun? : Points → Option SurrogateRun
  | [] => none
  | n :: rest =>
    if isSurrogate n then some ⟨n, 0, (rest.takeWhile isSurrogate).length + 1⟩
    else (surrogateRun? rest).map fun run => { run with start := run.start + 1 }

def SurrogateRun.place (r : SurrogateRun) : String :=
  if r.length = 1 then
    "character '" ++ String.ofList (escapeHidden r.first) ++ "' in position " ++ toString r.start
  else
    "characters in position " ++ toString r.start ++ "-" ++ toString (r.start + r.length - 1)

/-- The text of the error, in the words of the interpreter. -/
def SurrogateRun.message (r : SurrogateRun) : String :=
  "'utf-8' codec can't encode " ++ r.place ++ ": surrogates not allowed"

/-- The string with these points, unless there are surrogates among them. -/
def toText (p : Points) : Except SurrogateRun String :=
  match surrogateRun? p with
  | some run => .error run
  | none => .ok (String.ofList (p.map Char.ofNat))

theorem not_isSurrogate_toNat (c : Char) : isSurrogate c.toNat = false := by
  have h : c.toNat.isValidChar := c.valid
  simp only [isSurrogate, Bool.and_eq_false_iff, decide_eq_false_iff_not]
  rcases h with h | h <;> omega

/-- No point of a text is a surrogate. -/
def IsClean (p : Points) : Prop := ∀ n ∈ p, isSurrogate n = false

theorem isClean_nil : IsClean [] := fun _ hn => absurd hn List.not_mem_nil

theorem isClean_cons {n : Nat} {p : Points} (hn : isSurrogate n = false) (hp : IsClean p) :
    IsClean (n :: p) := List.forall_mem_cons.2 ⟨hn, hp⟩

theorem IsClean.flatMap {p : Points} {f : Nat → Points} (hp : IsClean p)
    (hf : ∀ n, isSurrogate n = false → IsClean (f n)) : IsClean (p.flatMap f) := by
  intro m hm
  obtain ⟨n, hn, hm⟩ := List.mem_flatMap.1 hm
  exact hf n (hp n hn) m hm

theorem isClean_map_toNat (s : List Char) : IsClean (s.map Char.toNat) := by
  intro n hn
  obtain ⟨c, _, rfl⟩ := List.mem_map.1 hn
  exact not_isSurrogate_toNat c

theorem isClean_points (s : String) : IsClean (points s) := isClean_map_toNat s.toList

theorem surrogateRun?_eq_none {p : Points} (h : IsClean p) : surrogateRun? p = none := by
  induction p with
  | nil => rfl
  | cons n rest ih =>
    have hrest := ih fun m hm => h m (List.mem_cons_of_mem n hm)
    simp [surrogateRun?, h n List.mem_cons_self, hrest]

theorem isClean_of_surrogateRun? {p : Points} (h : surrogateRun? p = none) : IsClean p := by
  induction p with
  | nil => exact isClean_nil
  | cons n rest ih =>
    unfold surrogateRun? at h
    split at h
    · cases h
    · next hn =>
      rw [Option.map_eq_none_iff] at h
      exact isClean_cons (Bool.not_eq_true _ ▸ hn) (ih h)

theorem IsClean.exists_toText {p : Points} (hp : IsClean p) : ∃ s, toText p = .ok s := by
  rw [toText, surrogateRun?_eq_none hp]
  exact ⟨_, rfl⟩

theorem surrogateRun?_points (s : String) : surrogateRun? (points s) = none :=
  surrogateRun?_eq_none (isClean_points s)

theorem toText_points (s : String) : toText (points s) = .ok s := by
  rw [toText, surrogateRun?_points]
  simp [points, Function.comp_def, Char.ofNat_toNat]

end Stockroom.Text
