import Stockroom.Proofs.Payload

/-!
# A field in a create and in a patch

Three fields of a new product may be set by a patch as well. A value that is not null passes for
such a field in a patch exactly if it passes in a create. It is read as the same value in both, and
what is wrong with it is the same in both.
-/

namespace Stockroom

open Number Text

/-- The fields of a product that a patch may set. -/
inductive PatchField where
  | name
  | cost
  | quantity
  deriving DecidableEq

def PatchField.text : PatchField → String
  | name => "name"
  | cost => "cost"
  | quantity => "quantity"

/-- The patch that sets one field as the data have it, and no other. -/
def NewProduct.only (p : NewProduct) : PatchField → Patch
  | .name => { name := some p.name }
  | .cost => { cost := some p.cost }
  | .quantity => { quantity := some p.quantity }

namespace Payload

/-- Reads a value as the patch that sets the field to it. -/
def readField : PatchField → Json → Except Fault Patch
  | .name, v => (readName v).map fun name => { name := some name }
  | .cost, v => (readCost v).map fun cost => { cost := some cost }
  | .quantity, v => (readQuantity v).map fun quantity => { quantity := some quantity }

/-- What is read of a field, as the result of an object with no other fault. -/
def ofField {α : Type} (f : PatchField) (e : Except Fault α) : Except (List Issue) α :=
  e.mapError fun fault => [.at f.text fault]

theorem only_of_readField {f : PatchField} {v : Json} {change : Patch}
    (h : readField f v = .ok change) (p : NewProduct) : (p.patch change).only f = change := by
  cases f with
  | name =>
    cases hread : readName v <;> simp only [readField, hread, Except.map] at h <;> cases h
    rfl
  | cost =>
    cases hread : readCost v <;> simp only [readField, hread, Except.map] at h <;> cases h
    rfl
  | quantity =>
    cases hread : readQuantity v <;> simp only [readField, hread, Except.map] at h <;> cases h
    rfl

/-! ## Members with one value set -/

section

variable {α : Type} {name other : String} {fields : List String} {ms : Members} {v : Json}

theorem required_put_self (name : String) (read : Json → Except Fault α) (v : Json)
    (ms : Members) : required (Json.put name v ms) name read = located name (read v) := by
  unfold required
  rw [Json.get?_put_self]

theorem required_put_of_ne (h : other ≠ name) (read : Json → Except Fault α) (v : Json)
    (ms : Members) : required (Json.put name v ms) other read = required ms other read := by
  unfold required
  rw [Json.get?_put_of_ne h]

theorem optional_put_self (hv : v ≠ .null) (name : String) (read : Json → Except Fault α)
    (ms : Members) :
    optional (Json.put name v ms) name read = located name ((read v).map some) := by
  unfold optional
  rw [Json.get?_put_self]
  cases v with
  | null => exact absurd rfl hv
  | _ => rfl

theorem optional_put_of_ne (h : other ≠ name) (read : Json → Except Fault α) (v : Json)
    (ms : Members) : optional (Json.put name v ms) other read = optional ms other read := by
  unfold optional
  rw [Json.get?_put_of_ne h]

theorem extraNames?_eq_nil_iff :
    extraNames? fields ms = some [] ↔ ∀ key ∈ ms.map (·.1), key ∈ fields.map points := by
  have hnone (keys : List Points) : keys.mapM ofPoints? = some [] ↔ keys = [] := by
    cases keys <;> simp [Option.bind_eq_some_iff]
  unfold extraNames?
  rw [hnone, List.filter_eq_nil_iff]
  simp

theorem extraNames?_put (hms : extraNames? fields ms = some []) (hname : name ∈ fields)
    (v : Json) : extraNames? fields (Json.put name v ms) = some [] := by
  rw [extraNames?_eq_nil_iff] at hms ⊢
  intro key hkey
  rcases Json.keys_put_subset _ v ms key hkey with rfl | hkey
  · exact List.mem_map_of_mem hname
  · exact hms key hkey

end

/-! ## Both payloads -/

theorem newProduct_of_members {ms : Members} (h : extraNames? newFields ms = some []) :
    newProduct (.object ms) = newProductOfMembers ms [] := by
  simp only [newProduct, ofObject, h]

theorem patch_of_members {ms : Members} (h : extraNames? patchFields ms = some []) :
    patch (.object ms) = patchOfMembers ms [] := by
  simp only [patch, ofObject, h]

/-- A create with another value for one field is the same create patched, or has the fault of that
value alone. -/
theorem newProduct_put {ms : Members} {p : NewProduct} (h : newProduct (.object ms) = .ok p)
    (f : PatchField) (v : Json) :
    newProduct (.object (Json.put f.text v ms)) = (ofField f (readField f v)).map p.patch := by
  obtain ⟨_, extras, hobject, hextras, hread⟩ := ofObject_eq_ok_iff.1 h
  obtain rfl := Json.object.inj hobject
  obtain ⟨hname, hcost, hquantity, huser, rfl⟩ := newProductOfMembers_eq_ok_iff.1 hread
  have hfield : f.text ∈ newFields := by cases f <;> decide
  rw [newProduct_of_members (extraNames?_put hextras hfield v)]
  unfold newProductOfMembers
  -- The reader of the field is put to the new value, and the others find what they found before.
  cases f with
  | name =>
    simp (disch := decide) only [PatchField.text, required_put_self, required_put_of_ne, hcost,
      hquantity, huser, readField]
    cases readName v <;> rfl
  | cost =>
    simp (disch := decide) only [PatchField.text, required_put_self, required_put_of_ne, hname,
      hquantity, huser, readField]
    cases readCost v <;> rfl
  | quantity =>
    simp (disch := decide) only [PatchField.text, required_put_self, required_put_of_ne, hname,
      hcost, huser, readField]
    cases readQuantity v <;> rfl

theorem patch_singleton (f : PatchField) {v : Json} (hv : v ≠ .null) :
    patch (.object [(points f.text, v)]) = ofField f (readField f v) := by
  have hsingle : [(points f.text, v)] = Json.put f.text v [] := rfl
  have hfield : f.text ∈ patchFields := by cases f <;> decide
  rw [hsingle, patch_of_members (extraNames?_put rfl hfield v)]
  unfold patchOfMembers
  cases f with
  | name =>
    simp (disch := decide) only [PatchField.text, optional_put_self hv, optional_put_of_ne,
      readField]
    cases readName v <;> rfl
  | cost =>
    simp (disch := decide) only [PatchField.text, optional_put_self hv, optional_put_of_ne,
      readField]
    cases readCost v <;> rfl
  | quantity =>
    simp (disch := decide) only [PatchField.text, optional_put_self hv, optional_put_of_ne,
      readField]
    cases readQuantity v <;> rfl

/-- A value other than null, in a patch by itself and in the place of a field of a valid create. If
one is accepted, so is the other; the patch sets what the create has in that field and nothing else,
and the create is the old one so patched. If one is refused, so is the other, with the same issue at
the same place. -/
theorem field_checked_alike {ms : Members} {p : NewProduct} (h : newProduct (.object ms) = .ok p)
    (f : PatchField) {v : Json} (hv : v ≠ .null) :
    patch (.object [(points f.text, v)]) =
      (newProduct (.object (Json.put f.text v ms))).map (·.only f) ∧
    newProduct (.object (Json.put f.text v ms)) =
      (patch (.object [(points f.text, v)])).map p.patch := by
  rw [newProduct_put h f v, patch_singleton f hv]
  refine ⟨?_, rfl⟩
  cases hread : readField f v with
  | error fault => rfl
  | ok change =>
    show Except.ok change = .ok ((p.patch change).only f)
    rw [only_of_readField hread p]

/-- What creates one apple of the seventh user. -/
def appleMembers : Members :=
  [("name", .text "apple"), ("cost", .integer 1), ("quantity", .bool true),
    ("user_id", .text "00000000-0000-0000-0000-000000000007")]

theorem apples_counted_alike :
    let apple : NewProduct := ⟨"apple", .ofInt 1, 1, ⟨7⟩⟩
    let seven : Json := .text " +07.0 "
    let many : Json := .text "many"
    newProduct (.object appleMembers) = .ok apple ∧
      patch (.object [("quantity", seven)]) = .ok { quantity := some 7 } ∧
      newProduct (.object (Json.put "quantity" seven appleMembers)) =
        .ok { apple with quantity := 7 } ∧
      patch (.object [("quantity", many)]) = .error [.at "quantity" .notIntegerText] ∧
      newProduct (.object (Json.put "quantity" many appleMembers)) =
        .error [.at "quantity" .notIntegerText] := by
  intro apple seven many
  have happle : newProduct (.object appleMembers) = .ok apple := rfl
  have hseven : patch (.object [("quantity", seven)]) = .ok { quantity := some 7 } := rfl
  have hmany : patch (.object [("quantity", many)]) =
      .error [.at "quantity" .notIntegerText] := rfl
  have halike {s : String} := (field_checked_alike happle .quantity (v := .text s) nofun).2
  exact ⟨happle, hseven, halike.trans (congrArg _ hseven), hmany, halike.trans (congrArg _ hmany)⟩

end Payload

end Stockroom
