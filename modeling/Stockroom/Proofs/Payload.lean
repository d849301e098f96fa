import Stockroom.Payload
import Stockroom.Proofs.Problem
import Stockroom.Proofs.Store

/-!
# What a valid payload holds

A payload is valid exactly if each of its fields reads and there is no other key. The values that
come out have a name that is a string and not empty, a cost of at least zero and a quantity of at
least one. Nothing bounds the quantity from above. What is wrong with a payload that is not valid is
said of members under their names, and these are strings.
-/

namespace Stockroom

open Number Text

/-! ## Values of a valid payload -/

/-- A name as a payload gives it. -/
def IsName (p : Points) : Prop := ∃ s : String, s ≠ "" ∧ p = points s

structure NewProduct.IsValid (p : NewProduct) : Prop where
  name : IsName p.name
  cost : p.cost.isNonneg = true
  quantity : 1 ≤ p.quantity

structure Patch.IsValid (change : Patch) : Prop where
  name : ∀ text ∈ change.name, IsName text
  cost : ∀ x ∈ change.cost, x.isNonneg = true
  quantity : ∀ n ∈ change.quantity, 1 ≤ n

theorem NewProduct.IsValid.patch {p : NewProduct} {change : Patch} (hp : p.IsValid)
    (hchange : change.IsValid) : (p.patch change).IsValid := by
  obtain ⟨name, cost, quantity⟩ := change
  refine ⟨?_, ?_, ?_⟩
  · cases name with
    | none => exact hp.name
    | some text => exact hchange.name text rfl
  · cases cost with
    | none => exact hp.cost
    | some x => exact hchange.cost x rfl
  · cases quantity with
    | none => exact hp.quantity
    | some n => exact hchange.quantity n rfl

namespace Payload

/-! ## Fields -/

theorem isName_of_readName {j : Json} {p : Points} (h : readName j = .ok p) : IsName p := by
  unfold readName at h
  split at h
  · next s _ =>
    split at h
    · cases h
    · next hne =>
      cases h
      exact ⟨s, hne, rfl⟩
  · cases h

theorem isNonneg_of_readCost {j : Json} {x : Real64} (h : readCost j = .ok x) :
    x.isNonneg = true := by
  unfold readCost at h
  split at h
  · split at h
    · next hx =>
      cases h
      exact hx
    · cases h
  · cases h

theorem one_le_of_readQuantity {j : Json} {n : Int} (h : readQuantity j = .ok n) : 1 ≤ n := by
  unfold readQuantity at h
  split at h
  · split at h
    · next hn =>
      cases h
      exact hn
    · cases h
  · cases h

theorem required_eq_ok_iff {α : Type} {ms : Members} {name : String}
    {read : Json → Except Fault α} {a : α} :
    required ms name read = .ok a ↔ ∃ j, Json.get? ms name = some j ∧ read j = .ok a := by
  unfold required
  cases Json.get? ms name with
  | none => simp
  | some j => cases hread : read j <;> simp [located, hread]

theorem read_of_optional {α : Type} {ms : Members} {name : String} {read : Json → Except Fault α}
    {a : α} (h : optional ms name read = .ok (some a)) : ∃ j, read j = .ok a := by
  unfold optional at h
  split at h
  · cases h
  · cases h
  · next j _ _ =>
    cases hread : read j with
    | error fault => simp [hread, Except.map, located] at h
    | ok b =>
      simp only [hread, Except.map, located, Except.ok.injEq, Option.some.injEq] at h
      exact ⟨j, h ▸ hread⟩

/-! ## Objects -/

theorem ofObject_eq_ok_iff {α : Type} {model : String} {fields : List String}
    {read : Members → List String → Except (List Issue) α} {j : Json} {a : α} :
    ofObject model fields read j = .ok a ↔
      ∃ ms extras, j = .object ms ∧ extraNames? fields ms = some extras ∧
        read ms extras = .ok a := by
  cases j with
  | object ms => cases hextra : extraNames? fields ms <;> simp [ofObject, hextra]
  | _ => simp [ofObject]

theorem newProductOfMembers_eq_ok_iff {ms : Members} {extras : List String} {p : NewProduct} :
    newProductOfMembers ms extras = .ok p ↔
      required ms "name" readName = .ok p.name ∧ required ms "cost" readCost = .ok p.cost ∧
        required ms "quantity" readQuantity = .ok p.quantity ∧
        required ms "user_id" readId = .ok p.userId ∧ extras = [] := by
  unfold newProductOfMembers
  dsimp only
  constructor
  · intro h
    split at h
    · next hname hcost hquantity huser =>
      cases h
      exact ⟨hname, hcost, hquantity, huser, rfl⟩
    · cases h
  · rintro ⟨hname, hcost, hquantity, huser, rfl⟩
    rw [hname, hcost, hquantity, huser]

theorem patchOfMembers_eq_ok_iff {ms : Members} {extras : List String} {change : Patch} :
    patchOfMembers ms extras = .ok change ↔
      optional ms "name" readName = .ok change.name ∧
        optional ms "cost" readCost = .ok change.cost ∧
        optional ms "quantity" readQuantity = .ok change.quantity ∧ extras = [] := by
  unfold patchOfMembers
  dsimp only
  constructor
  · intro h
    split at h
    · next hname hcost hquantity =>
      cases h
      exact ⟨hname, hcost, hquantity, rfl⟩
    · cases h
  · rintro ⟨hname, hcost, hquantity, rfl⟩
    rw [hname, hcost, hquantity]

/-! ## Payloads -/

theorem isValid_of_newProduct {j : Json} {p : NewProduct} (h : newProduct j = .ok p) :
    p.IsValid := by
  obtain ⟨ms, extras, -, -, hread⟩ := ofObject_eq_ok_iff.1 h
  obtain ⟨hname, hcost, hquantity, -, -⟩ := newProductOfMembers_eq_ok_iff.1 hread
  obtain ⟨_, -, hname⟩ := required_eq_ok_iff.1 hname
  obtain ⟨_, -, hcost⟩ := required_eq_ok_iff.1 hcost
  obtain ⟨_, -, hquantity⟩ := required_eq_ok_iff.1 hquantity
  exact ⟨isName_of_readName hname, isNonneg_of_readCost hcost, one_le_of_readQuantity hquantity⟩

theorem isValid_of_patch {j : Json} {change : Patch} (h : patch j = .ok change) :
    change.IsValid := by
  obtain ⟨ms, extras, -, -, hread⟩ := ofObject_eq_ok_iff.1 h
  obtain ⟨hname, hcost, hquantity, -⟩ := patchOfMembers_eq_ok_iff.1 hread
  refine ⟨fun text htext => ?_, fun x hx => ?_, fun n hn => ?_⟩
  · rw [Option.mem_def.1 htext] at hname
    obtain ⟨_, hread⟩ := read_of_optional hname
    exact isName_of_readName hread
  · rw [Option.mem_def.1 hx] at hcost
    obtain ⟨_, hread⟩ := read_of_optional hcost
    exact isNonneg_of_readCost hread
  · rw [Option.mem_def.1 hn] at hquantity
    obtain ⟨_, hread⟩ := read_of_optional hquantity
    exact one_le_of_readQuantity hread

/-! ## Issues -/

/-- An issue of the object as a whole, or of one member under a name that is a string. -/
def Issue.IsNamed (i : Issue) : Prop :=
  i.location = [] ∨ ∃ name : String, i.location = [.name name]

theorem Issue.isNamed_at (name : String) (fault : Fault) : (Issue.at name fault).IsNamed :=
  Or.inr ⟨name, rfl⟩

theorem Issue.IsNamed.isClean_record {i : Issue} (hi : i.IsNamed) : i.record.IsClean := by
  refine ⟨?_, isClean_points i.fault.message⟩
  rcases hi with hnil | ⟨name, hname⟩
  · rw [Problem.Record.name, record, hnil]
    exact isClean_points "body"
  · rw [Problem.Record.name, record, hname]
    show IsClean (if (points name ++ []).isEmpty then points "body" else points name ++ [])
    rw [List.append_nil]
    split
    · exact isClean_points "body"
    · exact isClean_points name

theorem isNamed_of_located {α : Type} {name : String} {e : Except Fault α} {i : Issue}
    (h : i ∈ issues (located name e)) : i.IsNamed := by
  cases e with
  | ok a => exact absurd h List.not_mem_nil
  | error fault => exact List.mem_singleton.1 h ▸ Issue.isNamed_at name fault

theorem isNamed_of_required {α : Type} {ms : Members} {name : String}
    {read : Json → Except Fault α} {i : Issue} (h : i ∈ issues (required ms name read)) :
    i.IsNamed := by
  unfold required at h
  split at h
  · exact List.mem_singleton.1 h ▸ Issue.isNamed_at name .missing
  · exact isNamed_of_located h

theorem isNamed_of_optional {α : Type} {ms : Members} {name : String}
    {read : Json → Except Fault α} {i : Issue} (h : i ∈ issues (optional ms name read)) :
    i.IsNamed := by
  unfold optional at h
  split at h
  · exact absurd h List.not_mem_nil
  · exact absurd h List.not_mem_nil
  · exact isNamed_of_located h

theorem isNamed_of_extraIssues {names : List String} {i : Issue} (h : i ∈ extraIssues names) :
    i.IsNamed := by
  obtain ⟨name, -, rfl⟩ := List.mem_map.1 h
  exact Issue.isNamed_at name .unexpected

theorem isNamed_of_ofObject {α : Type} {model : String} {fields : List String}
    {read : Members → List String → Except (List Issue) α} {j : Json} {is : List Issue}
    (hread : ∀ ms extras is, read ms extras = .error is → ∀ i ∈ is, i.IsNamed)
    (h : ofObject model fields read j = .error is) : ∀ i ∈ is, i.IsNamed := by
  have hwhole (fault : Fault) (hfault : [⟨[], fault⟩] = is) : ∀ i ∈ is, i.IsNamed := by
    rw [← hfault, List.forall_mem_singleton]
    exact Or.inl rfl
  unfold ofObject at h
  split at h
  · split at h
    · exact hwhole _ (Except.error.inj h)
    · exact hread _ _ _ h
  · exact hwhole _ (Except.error.inj h)

theorem isNamed_of_newProduct {j : Json} {is : List Issue} (h : newProduct j = .error is) :
    ∀ i ∈ is, i.IsNamed := by
  refine isNamed_of_ofObject (fun ms extras is h i hi => ?_) h
  unfold newProductOfMembers at h
  dsimp only at h
  split at h
  · cases h
  · cases h
    simp only [List.mem_append] at hi
    rcases hi with (((hi | hi) | hi) | hi) | hi
    · exact isNamed_of_required hi
    · exact isNamed_of_required hi
    · exact isNamed_of_required hi
    · exact isNamed_of_required hi
    · exact isNamed_of_extraIssues hi

theorem isNamed_of_patch {j : Json} {is : List Issue} (h : patch j = .error is) :
    ∀ i ∈ is, i.IsNamed := by
  refine isNamed_of_ofObject (fun ms extras is h i hi => ?_) h
  unfold patchOfMembers at h
  dsimp only at h
  split at h
  · cases h
  · cases h
    simp only [List.mem_append] at hi
    rcases hi with ((hi | hi) | hi) | hi
    · exact isNamed_of_optional hi
    · exact isNamed_of_optional hi
    · exact isNamed_of_optional hi
    · exact isNamed_of_extraIssues hi

end Payload

end Stockroom
