import Stockroom.Problem
import Stockroom.Store

/-!
# The catalogue

The operations on products. `Core` is what the service needs of a catalogue, whatever its state is;
`Catalogue.core` is the catalogue over a table. An operation has a result, a next state and lines
for the log. Ids and times come from two sources, and every call that draws on a source uses up an
element of it, also a call that fails.
-/

namespace Stockroom

open Number Text

/-- How an operation fails. `other` is a failure that the model does not look into. -/
inductive CoreFault where
  | notFound (id : Uuid)
  | store (fault : StoreFault)
  | unknownField (field : Points)
  | badId
  | problem (p : Problem)
  | other (message : String)
  | cancelled

def CoreFault.message : CoreFault → Points
  | .notFound id => "Product not found: " ++ id.text
  | .store fault => fault.message
  | .unknownField field => "field " ++ quoted field ++ " does not exist"
  | .badId => "badly formed hexadecimal UUID string"
  | .problem p => p.text
  | .other message => message
  | .cancelled => ""

structure Outcome (σ α : Type) where
  result : Except CoreFault α
  state : σ
  logs : List LogLine := []

/-- The operations that the service calls. -/
structure Core (σ : Type) where
  create : NewProduct → σ → Outcome σ StoredProduct
  update : Product → Patch → σ → Outcome σ StoredProduct
  delete : Product → σ → Outcome σ Unit
  query : Filter → OrderBy → (page rows : Int) → σ → Outcome σ (List StoredProduct)
  count : Filter → σ → Outcome σ Nat
  queryById : Uuid → σ → Outcome σ StoredProduct

/-- Where ids and times come from: the one for each call, by its number. -/
structure Sources where
  ids : Nat → Uuid
  clock : Nat → Timestamp

/-- A database that cannot be opened, one without the table, or the table. -/
inductive Table where
  | unreachable
  | missing
  | ready (store : Store)
  deriving DecidableEq

/-- A table, with what the calls so far have drawn from the sources. -/
structure Catalogue where
  table : Table := .ready {}
  idsUsed : Nat := 0
  ticks : Nat := 0
  deriving DecidableEq

/-- The rows, unless there is no table to read them from. -/
def Table.store? : Table → Except StoreFault Store
  | .unreachable => .error .unreachable
  | .missing => .error .noTable
  | .ready store => .ok store

/-- The product of a row, if both of its ids are spelled as such. -/
def Row.product? (r : Row) : Option StoredProduct := do
  let id ← Uuid.ofText? r.id
  let userId ← Uuid.ofText? r.userId
  some ⟨id, r.name, r.cost, r.quantity, userId, r.created, r.updated⟩

def Row.product (r : Row) : Except CoreFault StoredProduct :=
  match r.product? with
  | some p => .ok p
  | none => .error .badId

namespace Catalogue

def createdLine (id : String) : LogLine := ⟨.info, .catalogue, "Created product " ++ id⟩

def updatedLine (id : String) : LogLine := ⟨.info, .catalogue, "Updated product " ++ id⟩

def deletedLine (id : String) : LogLine := ⟨.info, .catalogue, "Deleted product " ++ id⟩

/-- The row of a new product, both of whose dates are the time of the call. -/
def newRow (id : Uuid) (now : Timestamp) (p : NewProduct) : Except StoreFault Row :=
  (storedText p.name).map fun name =>
    ⟨id.text, name, p.cost, p.quantity, p.userId.text, now, now⟩

/-- The row with the changeable fields of some data, as of a time. -/
def changedRow (old : Row) (p : NewProduct) (now : Timestamp) : Except StoreFault Row :=
  (storedText p.name).map fun name =>
    { old with name := name, cost := p.cost, quantity := p.quantity, updated := now }

/-- Inserts a row under the next id, and gives the product that is read back from it. -/
def create (src : Sources) (p : NewProduct) (c : Catalogue) : Outcome Catalogue StoredProduct :=
  let next := { c with idsUsed := c.idsUsed + 1, ticks := c.ticks + 1 }
  let written := do
    let store ← c.table.store?
    let row ← newRow (src.ids c.idsUsed) (src.clock c.ticks) p
    return (row, ← store.insert row)
  match written with
  | .error fault => { result := .error (.store fault), state := next }
  | .ok (row, store) =>
    { result := row.stored.product, state := { next with table := .ready store },
      logs := [createdLine row.id] }

/-- The fields that a patch does not set are those of the product that the caller holds. -/
def update (src : Sources) (held : Product) (change : Patch) (c : Catalogue) :
    Outcome Catalogue StoredProduct :=
  let next := { c with ticks := c.ticks + 1 }
  match c.table.store? with
  | .error fault => { result := .error (.store fault), state := next }
  | .ok store =>
    match store.find? held.id.text with
    | none => { result := .error (.notFound held.id), state := next }
    | some old =>
      let written := do
        let row ← changedRow old (held.data.patch change) (src.clock c.ticks)
        return (row, ← store.replace row)
      match written with
      | .error fault => { result := .error (.store fault), state := next }
      | .ok (row, store) =>
        { result := row.stored.product, state := { next with table := .ready store },
          logs := [updatedLine row.id] }

/-- Deleting a product that is not there succeeds. -/
def delete (held : Product) (c : Catalogue) : Outcome Catalogue Unit :=
  match c.table.store? with
  | .error fault => { result := .error (.store fault), state := c }
  | .ok store =>
    if store.contains held.id.text then
      { result := .ok (), state := { c with table := .ready (store.erase held.id.text) },
        logs := [deletedLine held.id.text] }
    else { result := .ok (), state := c }

def liftFault {α : Type} : Except StoreFault α → Except CoreFault α
  | .error fault => .error (.store fault)
  | .ok a => .ok a

/-- One page of the products of a filter. The field of the order is looked at before the table. -/
def query (f : Filter) (order : OrderBy) (page rows : Int) (c : Catalogue) :
    Outcome Catalogue (List StoredProduct) :=
  match order.column? with
  | none => { result := .error (.unknownField order.field), state := c }
  | some field =>
    let offset := (page - 1) * rows
    let found := c.table.store? >>= (·.page? f field order.isReverse offset rows)
    { result := liftFault found >>= (·.mapM Row.product), state := c }

def count (f : Filter) (c : Catalogue) : Outcome Catalogue Nat :=
  { result := liftFault (c.table.store? >>= (·.count? f)), state := c }

/-- The product under an id, or the fault that names it. -/
def queryById (id : Uuid) (c : Catalogue) : Outcome Catalogue StoredProduct :=
  match c.table.store? with
  | .error fault => { result := .error (.store fault), state := c }
  | .ok store =>
    match store.find? id.text with
    | none => { result := .error (.notFound id), state := c }
    | some row => { result := row.product, state := c }

def core (src : Sources) : Core Catalogue :=
  ⟨create src, update src, delete, query, count, queryById⟩

end Catalogue

end Stockroom
