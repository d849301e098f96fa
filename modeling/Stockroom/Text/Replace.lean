/-!
# Replacing a word

Every occurrence of a word is replaced, from the left, and an occurrence that overlaps a replaced
one is none.
-/

namespace Stockroom.Text

variable {α : Type} [BEq α]

/-- Replaces a word in a text whose first `skip` elements belong to an occurrence that is already
replaced. -/
def replaceFrom (old new : List α) : (skip : Nat) → List α → List α
  | _, [] => []
  | skip + 1, _ :: rest => replaceFrom old new skip rest
  | 0, c :: rest =>
    if old.isPrefixOf (c :: rest) then new ++ replaceFrom old new (old.length - 1) rest
    else c :: replaceFrom old new 0 rest

def replaceAll (old new s : List α) : List α := replaceFrom old new 0 s

theorem replaceAll_nil (old new : List α) : replaceAll old new [] = [] := rfl

theorem replaceFrom_append (old new front rest : List α) :
    replaceFrom old new front.length (front ++ rest) = replaceAll old new rest := by
  induction front with
  | nil => rfl
  | cons c front ih => exact ih

variable [LawfulBEq α] {old : List α}

theorem replaceAll_word_append (hne : old ≠ []) (new rest : List α) :
    replaceAll old new (old ++ rest) = new ++ replaceAll old new rest := by
  obtain ⟨c, word, rfl⟩ := List.exists_cons_of_ne_nil hne
  have hword : (c :: word).isPrefixOf (c :: (word ++ rest)) = true :=
    List.isPrefixOf_iff_prefix.2 (List.prefix_append (c :: word) rest)
  rw [replaceAll, List.cons_append, replaceFrom, if_pos hword]
  exact congrArg (new ++ ·) (replaceFrom_append (c :: word) new word rest)

/-- What no occurrence begins in stays as it is. -/
theorem replaceAll_append_of_forall {front rest : List α}
    (h : ∀ back, back ≠ [] → back <:+ front → ¬ old <+: back ++ rest) (new : List α) :
    replaceAll old new (front ++ rest) = front ++ replaceAll old new rest := by
  induction front with
  | nil => rfl
  | cons c front ih =>
    have hword : ¬ old.isPrefixOf (c :: (front ++ rest)) = true := fun hword =>
      h (c :: front) (List.cons_ne_nil _ _) (List.suffix_refl _)
        (List.isPrefixOf_iff_prefix.1 hword)
    have hrest := ih fun back hne hback => h back hne (hback.trans (List.suffix_cons c front))
    rw [replaceAll, List.cons_append, replaceFrom, if_neg hword]
    exact congrArg (c :: ·) hrest

theorem replaceAll_append_of_not_mem {first : α} {front : List α} (h : first ∉ front)
    (word new rest : List α) :
    replaceAll (first :: word) new (front ++ rest) =
      front ++ replaceAll (first :: word) new rest := by
  refine replaceAll_append_of_forall (fun back hne hback hword => ?_) new
  obtain ⟨c, back, rfl⟩ := List.exists_cons_of_ne_nil hne
  rw [List.cons_append, List.cons_prefix_cons] at hword
  exact h (hback.mem (hword.1 ▸ List.mem_cons_self))

theorem replaceAll_of_not_mem {first : α} {s : List α} (word new : List α) (h : first ∉ s) :
    replaceAll (first :: word) new s = s := by
  have happend := replaceAll_append_of_not_mem h word new []
  rwa [List.append_nil, replaceAll_nil, List.append_nil] at happend

/-- A character in front that the word does not begin with stays there. -/
theorem replaceAll_cons_of_ne {first c : α} (hne : c ≠ first) (word new s : List α) :
    replaceAll (first :: word) new (c :: s) = c :: replaceAll (first :: word) new s := by
  have hc : first ∉ [c] := by
    simpa using hne.symm
  exact replaceAll_append_of_not_mem hc word new s

/-- A word that is replaced by itself changes nothing. -/
theorem replaceAll_self (hne : old ≠ []) (s : List α) : replaceAll old old s = s := by
  obtain ⟨first, word, rfl⟩ := List.exists_cons_of_ne_nil hne
  have hdrop (skip : Nat) : replaceFrom (first :: word) (first :: word) skip s = s.drop skip := by
    fun_induction replaceFrom (first :: word) (first :: word) skip s with
    | case1 => rw [List.drop_nil]
    | case2 skip c rest ih => exact ih
    | case3 c rest hword ih =>
      obtain ⟨tail, htail⟩ := List.isPrefixOf_iff_prefix.1 hword
      obtain ⟨rfl, rfl⟩ := List.cons.inj htail
      rw [ih]
      simp
    | case4 c rest hword ih => rw [ih, List.drop_zero, List.drop_zero]
  exact hdrop 0

end Stockroom.Text
