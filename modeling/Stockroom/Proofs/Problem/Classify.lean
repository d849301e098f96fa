import Mathlib.Data.List.Induction
import Stockroom.Proofs.Problem

/-!
# What a failed validation comes to

One record of an unreadable body is enough for the whole validation, wherever it stands. Otherwise
each name that a record has is reported once, where it comes first and with the message that comes
first. So the order of the records decides on the order of the names and on the messages, and on
nothing else.
-/

namespace Stockroom.Problem

open Text

/-! ## Names of records -/

/-- The parts behind the first one, with dots between them. -/
def Record.dotted (r : Record) : Points :=
  List.intercalate "." (r.location.tail.map Part.text)

/-- The name that a record is reported under: its parts behind the first one, or the first one if
there is nothing to be read in these, or `body` if it has no parts. -/
inductive Record.Names (r : Record) : Points → Prop
  | dotted (h : r.dotted ≠ []) : Names r r.dotted
  | first {part : Part} (h : r.dotted = []) (hpart : r.location.head? = some part) :
    Names r part.text
  | body (h : r.location = []) : Names r "body"

theorem Record.names_name (r : Record) : r.Names r.name := by
  unfold Record.name
  dsimp only
  rw [List.drop_one]
  split
  · next h =>
    have hdotted : r.dotted = [] := List.isEmpty_iff.1 h
    cases hhead : r.location.head? with
    | none => exact .body (List.head?_eq_none_iff.1 hhead)
    | some part => exact .first hdotted hhead
  · next h => exact .dotted fun hdotted => h (List.isEmpty_iff.2 hdotted)

theorem Record.isDecode_iff {r : Record} :
    r.isDecode = true ↔ r.kind = some (points "json_invalid") ∨ r.location = [.name "body"] := by
  rw [isDecode, Bool.or_eq_true, beq_iff_eq, beq_iff_eq]

/-! ## Faults -/

/-- Of what is told in some order, each name once: where it comes first, and with the message that
comes first. -/
structure FirstOf (told faults : Faults) : Prop where
  names : ∀ name, name ∈ faults.map Prod.fst ↔ name ∈ told.map Prod.fst
  order : (faults.map Prod.fst).Pairwise fun m n =>
    (told.map Prod.fst).idxOf m < (told.map Prod.fst).idxOf n
  message : ∀ f ∈ faults, ∃ before behind,
    told = before ++ f :: behind ∧ f.1 ∉ before.map Prod.fst

namespace FirstOf

variable {faults told : Faults}

theorem nil : FirstOf [] [] where
  names _ := Iff.rfl
  order := List.Pairwise.nil
  message _ hf := absurd hf List.not_mem_nil

theorem nodup (h : FirstOf told faults) : (faults.map Prod.fst).Nodup :=
  h.order.imp fun {m n} hlt (heq : m = n) => Nat.lt_irrefl _ (heq ▸ hlt)

theorem addFault (h : FirstOf told faults) (name message : Points) :
    FirstOf (told ++ [(name, message)]) (Problem.addFault faults name message) := by
  have hmap : (told ++ [(name, message)]).map Prod.fst = told.map Prod.fst ++ [name] := by simp
  have hlater (f : Points × Points) (hf : f ∈ faults) : ∃ before behind,
      told ++ [(name, message)] = before ++ f :: behind ∧ f.1 ∉ before.map Prod.fst := by
    obtain ⟨before, behind, rfl, hbefore⟩ := h.message f hf
    exact ⟨before, behind ++ [(name, message)], by simp, hbefore⟩
  have horder : (faults.map Prod.fst).Pairwise fun m n =>
      (told.map Prod.fst ++ [name]).idxOf m < (told.map Prod.fst ++ [name]).idxOf n := by
    refine h.order.imp_of_mem fun hm hn hlt => ?_
    rwa [List.idxOf_append_of_mem ((h.names _).1 hm), List.idxOf_append_of_mem ((h.names _).1 hn)]
  by_cases hname : name ∈ faults.map Prod.fst
  · rw [addFault_of_mem hname]
    refine ⟨fun other => ?_, hmap ▸ horder, hlater⟩
    rw [hmap, List.mem_append, List.mem_singleton, h.names]
    refine ⟨Or.inl, fun hother => hother.elim id fun heq => ?_⟩
    exact heq ▸ (h.names name).1 hname
  · have htold : name ∉ told.map Prod.fst := mt (h.names name).2 hname
    rw [addFault_of_not_mem hname]
    refine ⟨fun other => ?_, ?_, fun f hf => ?_⟩
    · simp only [List.map_append, List.mem_append, h.names]
    · rw [hmap, List.map_append, List.pairwise_append]
      refine ⟨horder, List.pairwise_singleton _ _, fun m hm n hn => ?_⟩
      obtain rfl : n = name := by simpa using hn
      have hmem := (h.names m).1 hm
      rw [List.idxOf_append_of_mem hmem, List.idxOf_append_of_notMem htold]
      exact Nat.lt_of_lt_of_le (List.idxOf_lt_length_iff.2 hmem) (Nat.le_add_right _ _)
    · rcases List.mem_append.1 hf with hf | hf
      · exact hlater f hf
      · obtain rfl := List.mem_singleton.1 hf
        exact ⟨told, [], rfl, htold⟩

end FirstOf

theorem firstOf_foldl_addFault (told : Faults) :
    FirstOf told (told.foldl (fun faults f => addFault faults f.1 f.2) []) := by
  -- From the right, since a fault is added to those in front of it.
  induction told using List.reverseRecOn with
  | nil => exact .nil
  | append_singleton told f ih =>
    rw [List.foldl_append, List.foldl_cons, List.foldl_nil]
    exact ih.addFault f.1 f.2

/-! ## Records -/

theorem exists_fields_of_not_isDecode {records : List Record}
    (h : ¬ ∃ r ∈ records, r.isDecode = true) :
    ∃ faults : Faults, classify records = .fields faults ∧
      FirstOf (records.map fun r => (r.name, r.message.getD "invalid value")) faults := by
  have hnone : ∀ r ∈ records, r.isDecode = false := fun r hr =>
    Bool.eq_false_iff.2 fun hdecode => h ⟨r, hr, hdecode⟩
  exact ⟨_, classify_of_not_isDecode hnone, firstOf_foldl_addFault _⟩

theorem classify_of_isDecode {records : List Record} (h : ∃ r ∈ records, r.isDecode = true) :
    classify records = undecodable := by
  rw [classify, if_pos (List.any_eq_true.2 h)]

/-- A failed validation is an unreadable body exactly if some record says so. Otherwise it is faults
under the names of the records, each name once, in the order in which they come first and with the
message that comes first. In another order the records come to the same, but for the order of the
names and the messages. -/
theorem classify_specified (records : List Record) :
    ((∃ message, classify records = .decode message) ↔
        ∃ r ∈ records, r.kind = some (points "json_invalid") ∨ r.location = [.name "body"]) ∧
      (classify records = undecodable ∨
        ∃ faults : Faults, classify records = .fields faults ∧
          FirstOf (records.map fun r => (r.name, r.message.getD "invalid value")) faults) ∧
      (∀ r ∈ records, r.Names r.name) ∧
      ∀ others, records.Perm others →
        classify records = undecodable ∧ classify others = undecodable ∨
          ∃ faults faults' : Faults, classify records = .fields faults ∧
            classify others = .fields faults' ∧
            (faults.map Prod.fst).Perm (faults'.map Prod.fst) := by
  refine ⟨?_, ?_, fun r _ => r.names_name, fun others hperm => ?_⟩
  · simp only [← Record.isDecode_iff]
    refine ⟨fun ⟨message, hmessage⟩ => ?_, fun h => ⟨_, classify_of_isDecode h⟩⟩
    by_contra h
    obtain ⟨faults, hfaults, -⟩ := exists_fields_of_not_isDecode h
    exact absurd (hmessage.symm.trans hfaults) Problem.noConfusion
  · by_cases h : ∃ r ∈ records, r.isDecode = true
    · exact Or.inl (classify_of_isDecode h)
    · exact Or.inr (exists_fields_of_not_isDecode h)
  · have hdecode : (∃ r ∈ others, r.isDecode = true) ↔ ∃ r ∈ records, r.isDecode = true := by
      simp only [hperm.mem_iff]
    by_cases h : ∃ r ∈ records, r.isDecode = true
    · exact Or.inl ⟨classify_of_isDecode h, classify_of_isDecode (hdecode.2 h)⟩
    · obtain ⟨faults, hfaults, hfirst⟩ := exists_fields_of_not_isDecode h
      obtain ⟨faults', hfaults', hfirst'⟩ := exists_fields_of_not_isDecode (mt hdecode.1 h)
      refine Or.inr ⟨faults, faults', hfaults, hfaults', ?_⟩
      rw [List.perm_ext_iff_of_nodup hfirst.nodup hfirst'.nodup]
      intro name
      rw [hfirst.names, hfirst'.names]
      exact ((hperm.map _).map Prod.fst).mem_iff

/-- Two locations may have one name. -/
example :
    classify [⟨none, [.name "body", .name "a", .index 0], some "first"⟩,
      ⟨none, [.name "query"], none⟩, ⟨none, [.name "path", .name "a.0"], some "second"⟩] =
    .fields [("a.0", "first"), ("query", "invalid value")] := rfl

end Stockroom.Problem
