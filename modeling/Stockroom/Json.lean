import Stockroom.Number.Real64
import Stockroom.Text.Points

/-!
# JSON values

Strings are code points, since an escape may name a surrogate that stands alone. An object keeps
its members in the order in which their keys came first.
-/

namespace Stockroom

open Number Text

/-- A value. An integer has any size and is not the real that it equals. -/
inductive Json where
  | null
  | bool (b : Bool)
  | integer (n : Int)
  | real (x : Real64)
  | string (p : Points)
  | array (items : List Json)
  | object (members : List (Points × Json))
  deriving Inhabited

namespace Json

/-- A text of the program itself, which has no surrogates. -/
def text (s : String) : Json := .string (points s)

/-- A list of members as a list of pairs. -/
def fields (members : List (String × Json)) : Json :=
  .object (members.map fun m => (points m.1, m.2))

/-- Sets a member, in its place if the key is there. -/
def put (key : Points) (value : Json) : List (Points × Json) → List (Points × Json)
  | [] => [(key, value)]
  | m :: rest => if m.1 = key then (key, value) :: rest else m :: put key value rest

def get? (members : List (Points × Json)) (key : String) : Option Json :=
  members.lookup (points key)

theorem get?_put_self (key : String) (value : Json) (ms : List (Points × Json)) :
    get? (put key value ms) key = some value := by
  unfold get?
  induction ms with
  | nil => simp [put]
  | cons m ms ih =>
    obtain ⟨k, x⟩ := m
    by_cases hk : k = points key
    · simp [put, hk]
    · have hother : (points key == k) = false := beq_false_of_ne (Ne.symm hk)
      simp [put, hk, List.lookup_cons, hother, ih]

theorem get?_put_of_ne {key other : String} (h : other ≠ key) (value : Json)
    (ms : List (Points × Json)) : get? (put key value ms) other = get? ms other := by
  have hother : (points other == points key) = false :=
    beq_false_of_ne fun heq => h (points_injective heq)
  unfold get?
  induction ms with
  | nil => simp [put, List.lookup_cons, hother]
  | cons m ms ih =>
    obtain ⟨k, x⟩ := m
    by_cases hk : k = points key
    · simp [put, hk, List.lookup_cons, hother]
    · simp only [put, if_neg hk, List.lookup_cons, ih]

theorem keys_put_subset (key : Points) (value : Json) (ms : List (Points × Json)) :
    ∀ k ∈ (put key value ms).map (·.1), k = key ∨ k ∈ ms.map (·.1) := by
  induction ms with
  | nil => simp [put]
  | cons m rest ih =>
    intro k hk
    by_cases h : m.1 = key
    · simp [put, h] at hk
      grind
    · simp only [put, if_neg h, List.map_cons, List.mem_cons] at hk ⊢
      rcases hk with hk | hk
      · exact Or.inr (Or.inl hk)
      · rcases ih k hk with hk | hk
        · exact Or.inl hk
        · exact Or.inr (Or.inr hk)

end Json

end Stockroom
