import Stockroom.Payload.Value
import Stockroom.Product

/-!
# Payloads

The body of a create or an update request. The fields are checked in their order, then every key
that is no field is reported, so all issues of a payload are known at once. In an update a field may
be missing or null.
-/

namespace Stockroom.Payload

open Number Text

/-! ## Fields -/

/-- A name is a text with at least one character. -/
def readName (j : Json) : Except Fault Points :=
  match readText j with
  | .ok s => if s = "" then .error .emptyText else .ok s
  | .error fault => .error fault

/-- A cost is a real from zero upwards, infinity included. -/
def readCost (j : Json) : Except Fault Real64 :=
  match readReal j with
  | .ok x => if x.isNonneg then .ok x else .error (.below 0)
  | .error fault => .error fault

/-- A quantity is an integer from 1 upwards, of any size. -/
def readQuantity (j : Json) : Except Fault Int :=
  match readInteger j with
  | .ok n => if 1 ≤ n then .ok n else .error (.below 1)
  | .error fault => .error fault

/-! ## Members of an object -/

/-- The members of an object in the order in which their keys came first. -/
abbrev Members := List (Points × Json)

def located {α : Type} (name : String) : Except Fault α → Except Issue α
  | .ok a => .ok a
  | .error fault => .error (.at name fault)

/-- A member that has to be there. A null is a value like any other. -/
def required {α : Type} (ms : Members) (name : String) (read : Json → Except Fault α) :
    Except Issue α :=
  match Json.get? ms name with
  | none => .error (.at name .missing)
  | some j => located name (read j)

/-- A member that may be missing, or null. -/
def optional {α : Type} (ms : Members) (name : String) (read : Json → Except Fault α) :
    Except Issue (Option α) :=
  match Json.get? ms name with
  | none => .ok none
  | some .null => .ok none
  | some j => located name ((read j).map some)

def issues {α : Type} : Except Issue α → List Issue
  | .ok _ => []
  | .error issue => [issue]

/-- The keys that are no field, or none if one of them is no text. -/
def extraNames? (fields : List String) (ms : Members) : Option (List String) :=
  ((ms.map (·.1)).filter fun key => !(fields.map points).contains key).mapM ofPoints?

def extraIssues (names : List String) : List Issue := names.map fun n => .at n .unexpected

/-! ## Create and update -/

/-- The fields of a create request, in the order in which they are checked. -/
def newFields : List String := ["name", "cost", "quantity", "user_id"]

def patchFields : List String := ["name", "cost", "quantity"]

/-- All fields are checked, so that every issue is known. -/
def newProductOfMembers (ms : Members) (extras : List String) : Except (List Issue) NewProduct :=
  let name := required ms "name" readName
  let cost := required ms "cost" readCost
  let quantity := required ms "quantity" readQuantity
  let userId := required ms "user_id" readId
  match name, cost, quantity, userId, extras with
  | .ok name, .ok cost, .ok quantity, .ok userId, [] => .ok ⟨name, cost, quantity, userId⟩
  | name, cost, quantity, userId, extras =>
    .error (issues name ++ issues cost ++ issues quantity ++ issues userId ++ extraIssues extras)

/-- The fields of a patch, each as in a new product but for one that is not set. -/
def patchOfMembers (ms : Members) (extras : List String) : Except (List Issue) Patch :=
  let name := optional ms "name" readName
  let cost := optional ms "cost" readCost
  let quantity := optional ms "quantity" readQuantity
  match name, cost, quantity, extras with
  | .ok name, .ok cost, .ok quantity, [] => .ok ⟨name, cost, quantity⟩
  | name, cost, quantity, extras =>
    .error (issues name ++ issues cost ++ issues quantity ++ extraIssues extras)

/-- Reads an object. A key that is no text spoils the object as a whole. -/
def ofObject {α : Type} (model : String) (fields : List String)
    (read : Members → List String → Except (List Issue) α) : Json → Except (List Issue) α
  | .object ms =>
    match extraNames? fields ms with
    | none => .error [⟨[], .notUnicode⟩]
    | some extras => read ms extras
  | _ => .error [⟨[], .notRecord model⟩]

def newProduct : Json → Except (List Issue) NewProduct :=
  ofObject "ProductCreate" newFields newProductOfMembers

def patch : Json → Except (List Issue) Patch :=
  ofObject "ProductUpdate" patchFields patchOfMembers

end Stockroom.Payload
