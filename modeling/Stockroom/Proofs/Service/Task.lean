import Stockroom.Proofs.Service

/-!
# What a request asks for

A request to an endpoint is refused for its body, for the item in its path or for its query string,
or else it asks for a task. The service performs a task in one or two calls of the core.
-/

namespace Stockroom

open Http Service Text

namespace Service

inductive Task where
  | create (p : NewProduct)
  | update (id : Uuid) (change : Patch)
  | delete (id : Uuid)
  | list (q : Listing)
  | get (id : Uuid)

def Task.perform {σ : Type} (core : Core σ) (s : σ) : Task → Handled σ
  | .create p => Service.create core p s
  | .update id change => Service.update core id change s
  | .delete id => Service.delete core id s
  | .list q => Service.list core q s
  | .get id => Service.get core id s

/-- The product that a task looks up before anything else. -/
def Task.lookedUp? : Task → Option Uuid
  | .create _ => none
  | .update id _ => some id
  | .delete id => some id
  | .list _ => none
  | .get id => some id

end Service

namespace Http

/-- The text in the place of an identifier in a path. -/
def Request.item (r : Request) : Points := (item? r.target.path.toList).getD ""

/-- A valid request and its task. -/
inductive Request.Asks (config : Except ConfigFault ListConfig) (r : Request) : Task → Prop
  | create {p : NewProduct} (hr : r.Reaches .create) (h : readBody Payload.newProduct r = .ok p) :
      Asks config r (.create p)
  | update {id : Uuid} {change : Patch} (hr : r.Reaches .update)
      (h : readBody Payload.patch r = .ok change) (hid : Uuid.ofPoints? r.item = some id) :
      Asks config r (.update id change)
  | delete {id : Uuid} (hr : r.Reaches .delete) (hid : Uuid.ofPoints? r.item = some id) :
      Asks config r (.delete id)
  | list {c : ListConfig} {q : Listing} (hr : r.Reaches .list) (hc : config = .ok c)
      (h : Listing.ofParams (Form.params r.target.query) c = .ok q) : Asks config r (.list q)
  | get {id : Uuid} (hr : r.Reaches .fetch) (hid : Uuid.ofPoints? r.item = some id) :
      Asks config r (.get id)

/-- A request with a body, an item or a query string that is not good for its endpoint. -/
inductive Request.IsRefused (config : Except ConfigFault ListConfig) (r : Request) : Prop
  | newProduct {rejection : Rejection} (hr : r.Reaches .create)
      (h : readBody Payload.newProduct r = .error rejection)
  | patch {rejection : Rejection} (hr : r.Reaches .update)
      (h : readBody Payload.patch r = .error rejection)
  | item {endpoint : Endpoint} (hr : r.Reaches endpoint)
      (hendpoint : endpoint = .update ∨ endpoint = .delete ∨ endpoint = .fetch)
      (h : Uuid.ofPoints? r.item = none)
  | list {c : ListConfig} {fault : ListFault} (hr : r.Reaches .list) (hc : config = .ok c)
      (h : Listing.ofParams (Form.params r.target.query) c = .error fault)

variable {config : Except ConfigFault ListConfig} {r : Request} {task : Task}

theorem Request.IsRefused.exists_reaches (h : r.IsRefused config) :
    ∃ endpoint, r.Reaches endpoint := by
  cases h with
  | newProduct hr _ => exact ⟨_, hr⟩
  | patch hr _ => exact ⟨_, hr⟩
  | item hr _ _ => exact ⟨_, hr⟩
  | list hr _ _ => exact ⟨_, hr⟩

theorem Request.Reaches.asks_or_isRefused {endpoint : Endpoint} (hr : r.Reaches endpoint) :
    (∃ task, r.Asks config task) ∨ r.IsRefused config ∨
      endpoint = .list ∧ ∃ fault, config = .error fault := by
  have hitem (hendpoint : endpoint = .update ∨ endpoint = .delete ∨ endpoint = .fetch)
      (hasks : ∀ id, Uuid.ofPoints? r.item = some id → ∃ task, r.Asks config task) :
      (∃ task, r.Asks config task) ∨ r.IsRefused config := by
    cases hid : Uuid.ofPoints? r.item with
    | some id => exact Or.inl (hasks id hid)
    | none => exact Or.inr (.item hr hendpoint hid)
  rw [← or_assoc]
  cases endpoint with
  | create =>
    cases h : readBody Payload.newProduct r with
    | ok p => exact Or.inl (Or.inl ⟨_, .create hr h⟩)
    | error rejection => exact Or.inl (Or.inr (.newProduct hr h))
  | update =>
    cases h : readBody Payload.patch r with
    | ok change => exact Or.inl (hitem (by decide) fun id hid => ⟨_, .update hr h hid⟩)
    | error rejection => exact Or.inl (Or.inr (.patch hr h))
  | delete => exact Or.inl (hitem (by decide) fun id hid => ⟨_, .delete hr hid⟩)
  | list =>
    cases hc : config with
    | error fault => exact Or.inr ⟨rfl, fault, rfl⟩
    | ok c =>
      cases h : Listing.ofParams (Form.params r.target.query) c with
      | ok q => exact Or.inl (Or.inl ⟨_, .list hr rfl h⟩)
      | error fault => exact Or.inl (Or.inr (.list hr rfl h))
  | fetch => exact Or.inl (hitem (by decide) fun id hid => ⟨_, .get hr hid⟩)

end Http

namespace Service

variable {σ : Type} {core : Core σ} {config : Except ConfigFault ListConfig} {r : Request} {s : σ}

theorem withId_of_some {id : Uuid} (h : Uuid.ofPoints? r.item = some id) (next : Uuid → Handled σ) :
    withId r.target.path s next = next id :=
  withId_of_ok (show pathId r.item = .ok id by rw [pathId, h])

theorem withId_of_none (h : Uuid.ofPoints? r.item = none) (next : Uuid → Handled σ) :
    withId r.target.path s next = problem badId s := by
  have hid : pathId r.item = .error badId := by rw [pathId, h]
  unfold withId
  rw [show pathId ((item? r.target.path.toList).getD "") = _ from hid]

theorem handle_of_asks {task : Task} (h : r.Asks config task) :
    handle core config r s = task.perform core s := by
  cases h with
  | create hr h => rw [handle_of_reaches hr, carryOut, withBody_of_ok h, Task.perform]
  | update hr h hid =>
    rw [handle_of_reaches hr, carryOut, withBody_of_ok h, withId_of_some hid, Task.perform]
  | delete hr hid => rw [handle_of_reaches hr, carryOut, withId_of_some hid, Task.perform]
  | list hr hc h =>
    subst hc
    rw [handle_list_of_ok hr h, Task.perform]
  | get hr hid => rw [handle_of_reaches hr, carryOut, withId_of_some hid, Task.perform]

end Service

end Stockroom
