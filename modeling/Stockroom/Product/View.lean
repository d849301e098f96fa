import Stockroom.Json.Writer
import Stockroom.Payload

/-!
# Products in response bodies

A view is a product as a client reads it. A page view holds the views of one page and the three
numbers that go with it. A view may hold any name, but it has a text only if its names are strings.
-/

namespace Stockroom

open Number Text

/-- A product as a client reads it. -/
structure ProductView where
  id : Uuid
  name : Points
  cost : Real64
  quantity : Int
  userId : Uuid
  created : Moment
  updated : Moment
  deriving DecidableEq

/-- What a client is shown of a product, which is all of it. -/
def Product.view (p : Product) : ProductView :=
  ⟨p.id, p.name, p.cost, p.quantity, p.userId, p.created, p.updated⟩

def StoredProduct.view (p : StoredProduct) : ProductView := p.toProduct.view

/-- The view with a cost from outside, which has to be within the reals. -/
def ProductView.withCost (v : ProductView) (cost : Amount) :
    Except (List Payload.Issue) ProductView :=
  match cost.real? with
  | some x => .ok { v with cost := x }
  | none => .error [.at "cost" .notReal]

def ProductView.json (v : ProductView) : Json :=
  .fields
    [("id", .text v.id.text), ("name", .string v.name), ("cost", .real v.cost),
      ("quantity", .integer v.quantity), ("user_id", .text v.userId.text),
      ("date_created", .text v.created.text), ("date_updated", .text v.updated.text)]

/-- One page of a list as a client reads it. -/
structure PageView where
  items : List ProductView
  total : Int
  page : Int
  rows : Int
  deriving DecidableEq

/-- The members of a page. Only here the number of rows goes by another name. -/
def PageView.json (v : PageView) : Json :=
  .fields
    [("items", .array (v.items.map ProductView.json)), ("total", .integer v.total),
      ("page", .integer v.page), ("rowsPerPage", .integer v.rows)]

/-- A page view whose numbers come from outside. -/
def PageView.ofValues (items : List ProductView) (total page rows : Json) :
    Except (List Payload.Issue) PageView :=
  let read := fun name j => Payload.located name (Payload.readInteger j)
  match read "total" total, read "page" page, read "rows_per_page" rows with
  | .ok total, .ok page, .ok rows => .ok ⟨items, total, page, rows⟩
  | total, page, rows =>
    .error (Payload.issues total ++ Payload.issues page ++ Payload.issues rows)

/-! ## Texts -/

/-- A name that keeps a view from having a text. -/
structure ViewFault where
  run : SurrogateRun
  deriving DecidableEq

def ViewFault.message (f : ViewFault) : String :=
  "Error serializing to JSON: UnicodeEncodeError: " ++ f.run.message

/-- The text of a value that shows these views, unless one of their names has surrogates in it. -/
def textOfViews (views : List ProductView) (j : Json) : Except ViewFault String :=
  match views.findSome? fun v => surrogateRun? v.name with
  | some run => .error ⟨run⟩
  | none => .ok j.write

def ProductView.text (v : ProductView) : Except ViewFault String := textOfViews [v] v.json

def PageView.text (v : PageView) : Except ViewFault String := textOfViews v.items v.json

end Stockroom
