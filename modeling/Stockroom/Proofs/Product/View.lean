import Stockroom.Http.Body
import Stockroom.Product.View
import Stockroom.Proofs.Json.RoundTrip
import Stockroom.Proofs.Timestamp
import Stockroom.Proofs.Uuid

/-!
# Views are read back

A client reads the text of a view as JSON and takes the fields of the product from its members. It
is given all of them back but for a cost that is not finite, in whose place it finds a null.
-/

namespace Stockroom

open Number Text

/-- A product as its text in a body says it is. The cost is none if it is null there. -/
structure ProductReading where
  id : Uuid
  name : Points
  cost : Option Real64
  quantity : Int
  userId : Uuid
  created : Moment
  updated : Moment
  deriving DecidableEq

namespace ProductReading

def string? : Json → Option Points
  | .string p => some p
  | _ => none

def integer? : Json → Option Int
  | .integer n => some n
  | _ => none

def cost? : Json → Option (Option Real64)
  | .null => some none
  | .integer n => some (some (.ofInt n))
  | .real x => some (some x)
  | _ => none

def id? (j : Json) : Option Uuid := (string? j).bind Uuid.ofPoints?

def moment? (j : Json) : Option Moment := ((string? j).bind ofPoints?).bind Moment.ofText?

def ofMembers? (ms : List (Points × Json)) : Option ProductReading := do
  let id ← (Json.get? ms "id").bind id?
  let name ← (Json.get? ms "name").bind string?
  let cost ← (Json.get? ms "cost").bind cost?
  let quantity ← (Json.get? ms "quantity").bind integer?
  let userId ← (Json.get? ms "user_id").bind id?
  let created ← (Json.get? ms "date_created").bind moment?
  let updated ← (Json.get? ms "date_updated").bind moment?
  some ⟨id, name, cost, quantity, userId, created, updated⟩

def ofJson? : Json → Option ProductReading
  | .object ms => ofMembers? ms
  | _ => none

/-- Reads the text of a body as the product that it shows. -/
def ofText? (s : String) : Option ProductReading :=
  match Json.read Http.bodyDepth (points s) with
  | .ok (.object ms) => ofMembers? ms
  | _ => none

end ProductReading

/-- The real, unless a body has no number for it. -/
def Number.Real64.finite? (x : Real64) : Option Real64 := if x.isFinite then some x else none

namespace ProductView

/-- A view whose texts are read back. -/
structure Fits (v : ProductView) : Prop where
  name : IsString v.name
  quantity : v.quantity.natAbs < 10 ^ digitLimit
  created : v.created.Fits
  updated : v.updated.Fits

/-- What a client is given back of a view. -/
def reading (v : ProductView) : ProductReading :=
  ⟨v.id, v.name, v.cost.finite?, v.quantity, v.userId, v.created, v.updated⟩

/-- The cost as a body has it. -/
def wireCost (v : ProductView) : Json := if v.cost.isFinite then .real v.cost else .null

/-- The view as a body has it. -/
def wire (v : ProductView) : Json :=
  .fields
    [("id", .text v.id.text), ("name", .string v.name), ("cost", v.wireCost),
      ("quantity", .integer v.quantity), ("user_id", .text v.userId.text),
      ("date_created", .text v.created.text), ("date_updated", .text v.updated.text)]

theorem writePoints_wireCost (v : ProductView) :
    v.wireCost.writePoints = (Json.real v.cost).writePoints := by
  unfold wireCost
  split
  · rfl
  · next h =>
    rw [Json.writePoints, Json.writePoints]
    cases hcost : v.cost with
    | nan => rfl
    | signed negative rank =>
      have hrank : rank.val = infinityRank := by
        rw [hcost, Real64.isFinite, decide_eq_true_eq] at h
        omega
      rw [Layout.text, if_pos hrank]
      rfl

/-- A view has its cost as a real, and a real that is not finite is written as null. -/
theorem writePoints_wire (v : ProductView) : v.wire.writePoints = v.json.writePoints := by
  simp only [wire, json, Json.fields, List.map_cons, List.map_nil, Json.writePoints,
    Json.writeMembers, writePoints_wireCost]

theorem write_wire (v : ProductView) : v.wire.write = v.json.write := by
  rw [Json.write, Json.write, writePoints_wire]

theorem readable_wire {limit : Option Nat} {depth : Nat} {v : ProductView} (hname : IsString v.name)
    (hquantity : Json.IsShort limit v.quantity) : Json.Readable limit (depth + 1) v.wire := by
  have htext (s : String) : Json.Readable limit depth (.text s) := isString_points s.toList
  have hcost : Json.Readable limit depth v.wireCost := by
    unfold wireCost
    split
    · next h => exact h
    · trivial
  have hkeys : ["id", "name", "cost", "quantity", "user_id", "date_created",
      "date_updated"].Nodup := by decide
  refine Json.readable_fields hkeys ?_
  simp only [List.forall_mem_cons]
  exact ⟨htext _, hname, hcost, hquantity, htext _, htext _, htext _,
    fun _ hm => absurd hm List.not_mem_nil⟩

end ProductView

namespace ProductReading

theorem id?_text (u : Uuid) : id? (.text u.text) = some u := by
  rw [id?, Json.text, string?, Option.bind_some, Uuid.ofPoints?, readPoints?_points]
  exact Uuid.ofText?_text u

theorem moment?_text {m : Moment} (hm : m.Fits) : moment? (.text m.text) = some m := by
  rw [moment?, Json.text, string?, Option.bind_some, ofPoints?_points, Option.bind_some,
    Moment.ofText?_text hm]

theorem cost?_wireCost (v : ProductView) : cost? v.wireCost = some v.cost.finite? := by
  unfold ProductView.wireCost Real64.finite?
  split <;> rfl

theorem ofJson?_wire {v : ProductView} (hcreated : v.created.Fits) (hupdated : v.updated.Fits) :
    ofJson? v.wire = some v.reading := by
  simp only [ProductView.wire, Json.fields, ofJson?, ofMembers?, Json.get?_map_points]
  simp [List.lookup_cons, id?_text, string?, cost?_wireCost, integer?, moment?_text hcreated,
    moment?_text hupdated, ProductView.reading]

theorem ofText?_write {v : ProductView} (hv : v.Fits) :
    ofText? v.json.write =
      some ⟨v.id, v.name, v.cost.finite?, v.quantity, v.userId, v.created, v.updated⟩ := by
  have hreadable : Json.Readable _ Http.bodyDepth v.wire :=
    ProductView.readable_wire hv.name (Json.isShort_digitLimit hv.quantity)
  rw [ofText?, ← ProductView.write_wire, Json.read_write hreadable]
  exact ofJson?_wire hv.created hv.updated

end ProductReading

end Stockroom
