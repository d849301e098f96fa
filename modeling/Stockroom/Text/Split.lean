/-!
# Splitting a text

A text is split at the first or at the last character of a class. That character belongs to neither
side, and neither does any character that a text is split at throughout.
-/

namespace Stockroom.Text

variable {α : Type}

/-- What stands in front of the first character of a class, and what behind it. -/
def splitFirst (mark : α → Bool) (s : List α) : List α × Option (List α) :=
  (s.takeWhile (!mark ·), match s.dropWhile (!mark ·) with
    | [] => none
    | _ :: rest => some rest)

/-- What stands in front of the last character of a class, and what behind it. -/
def splitLast (mark : α → Bool) (s : List α) : Option (List α) × List α :=
  match splitFirst mark s.reverse with
  | (back, front) => (front.map List.reverse, back.reverse)

theorem splitFirst_of_none {mark : α → Bool} {s : List α} (h : ∀ c ∈ s, mark c = false) :
    splitFirst mark s = (s, none) := by
  induction s with
  | nil => rfl
  | cons c rest ih =>
    have hc : mark c = false := h c (by simp)
    have hrest := ih fun x hx => h x (by simp [hx])
    simp only [splitFirst, Prod.mk.injEq] at hrest ⊢
    simp [List.takeWhile, List.dropWhile, hc, hrest.1, hrest.2]

theorem splitFirst_append {mark : α → Bool} {front rest : List α} {c : α}
    (h : ∀ x ∈ front, mark x = false) (hc : mark c = true) :
    splitFirst mark (front ++ c :: rest) = (front, some rest) := by
  induction front with
  | nil => simp [splitFirst, hc]
  | cons x front ih =>
    have hx : mark x = false := h x (by simp)
    have hfront := ih fun y hy => h y (by simp [hy])
    simp only [splitFirst, Prod.mk.injEq, List.cons_append] at hfront ⊢
    simp [List.takeWhile, List.dropWhile, hx, hfront.1, hfront.2]

/-- A text has no character of a class, or it is split at the first one. -/
theorem splitFirst_cases (mark : α → Bool) (s : List α) :
    (∀ c ∈ s, mark c = false) ∧ splitFirst mark s = (s, none) ∨
      ∃ front c rest, s = front ++ c :: rest ∧ (∀ x ∈ front, mark x = false) ∧ mark c = true ∧
        splitFirst mark s = (front, some rest) := by
  induction s with
  | nil => exact Or.inl ⟨fun _ hc => absurd hc List.not_mem_nil, rfl⟩
  | cons c s ih =>
    cases hc : mark c with
    | true =>
      refine Or.inr ⟨[], c, s, rfl, fun _ hx => absurd hx List.not_mem_nil, hc, ?_⟩
      exact splitFirst_append (fun _ hx => absurd hx List.not_mem_nil) hc
    | false =>
      rcases ih with ⟨hs, -⟩ | ⟨front, d, rest, rfl, hfront, hd, -⟩
      · have hall : ∀ x ∈ c :: s, mark x = false := List.forall_mem_cons.2 ⟨hc, hs⟩
        exact Or.inl ⟨hall, splitFirst_of_none hall⟩
      · have hall : ∀ x ∈ c :: front, mark x = false := List.forall_mem_cons.2 ⟨hc, hfront⟩
        exact Or.inr ⟨c :: front, d, rest, rfl, hall, hd, splitFirst_append hall hd⟩

theorem splitLast_of_none {mark : α → Bool} {s : List α} (h : ∀ c ∈ s, mark c = false) :
    splitLast mark s = (none, s) := by
  rw [splitLast, splitFirst_of_none fun c hc => h c (List.mem_reverse.1 hc)]
  simp

theorem splitLast_append {mark : α → Bool} {front back : List α} {c : α}
    (h : ∀ x ∈ back, mark x = false) (hc : mark c = true) :
    splitLast mark (front ++ c :: back) = (some front, back) := by
  have hrev : (front ++ c :: back).reverse = back.reverse ++ c :: front.reverse := by simp
  rw [splitLast, hrev, splitFirst_append (fun x hx => h x (List.mem_reverse.1 hx)) hc]
  simp

/-- A text has no character of a class, or it is split at the last one. -/
theorem splitLast_cases (mark : α → Bool) (s : List α) :
    (∀ c ∈ s, mark c = false) ∧ splitLast mark s = (none, s) ∨
      ∃ front c back, s = front ++ c :: back ∧ (∀ x ∈ back, mark x = false) ∧ mark c = true ∧
        splitLast mark s = (some front, back) := by
  rcases splitFirst_cases mark s.reverse with ⟨hs, -⟩ | ⟨back, c, front, hs, hback, hc, -⟩
  · have hnone : ∀ c ∈ s, mark c = false := fun c hc => hs c (List.mem_reverse.2 hc)
    exact Or.inl ⟨hnone, splitLast_of_none hnone⟩
  · have hsplit : s = front.reverse ++ c :: back.reverse := by
      rw [← List.reverse_reverse s, hs]
      simp
    have hrest : ∀ x ∈ back.reverse, mark x = false := fun x hx => hback x (List.mem_reverse.1 hx)
    exact Or.inr ⟨_, c, _, hsplit, hrest, hc, hsplit ▸ splitLast_append hrest hc⟩

/-- Of all pieces together only the separators are missing. -/
theorem flatten_splitOn [BEq α] [LawfulBEq α] (a : α) (s : List α) :
    (s.splitOn a).flatten = s.filter (· != a) := by
  rw [List.splitOn]
  induction s with
  | nil => rfl
  | cons c s ih =>
    rw [List.splitOnP_cons_eq_if_modifyHead]
    split
    · next h =>
      have hc : (c != a) = false := by simpa using h
      rw [List.flatten_cons, List.nil_append, ih, List.filter_cons_of_neg (by simp [hc])]
    · next h =>
      have hc : (c != a) = true := by simpa using h
      rw [List.filter_cons, if_pos hc, ← ih]
      cases hpieces : s.splitOnP (· == a) with
      | nil => exact absurd hpieces (List.splitOnP_ne_nil _ _)
      | cons => rfl

end Stockroom.Text
