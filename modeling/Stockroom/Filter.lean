import Stockroom.Number.Amount
import Stockroom.Product

/-!
# What a query asks for

A filter constrains the fields that it sets. An order names a field and a direction; the direction
`DESC` alone turns the order round.
-/

namespace Stockroom

open Number Text

/-- Constraints on products. One that is none lets every product pass. -/
structure Filter where
  id : Option Uuid := none
  name : Option Points := none
  cost : Option Amount := none
  quantity : Option Int := none
  userId : Option Uuid := none
  deriving DecidableEq

/-- An order as it is asked for. Its field need not be one that there is. -/
structure OrderBy where
  field : Points
  direction : Points
  deriving DecidableEq

def ascending : String := "ASC"

def descending : String := "DESC"

/-- The columns that a list can be put in order by. -/
inductive SortField where
  | id
  | name
  | cost
  | quantity
  | userId
  | created
  deriving DecidableEq

namespace SortField

def all : List SortField := [id, name, cost, quantity, userId, created]

/-- The name of a column in a request and in the database. -/
def text : SortField → String
  | id => "product_id"
  | name => "name"
  | cost => "cost"
  | quantity => "quantity"
  | userId => "user_id"
  | created => "date_created"

def ofText? (s : String) : Option SortField := all.find? (·.text == s)

theorem ofText?_text (f : SortField) : ofText? f.text = some f := by
  cases f <;> decide

theorem text_ofText? {s : String} {f : SortField} (h : ofText? s = some f) : f.text = s := by
  have := List.find?_some h
  simpa using this

end SortField

/-- The column that an order names, if there is one of that name. -/
def OrderBy.column? (o : OrderBy) : Option SortField := (ofPoints? o.field).bind SortField.ofText?

/-- Any direction but `DESC` means ascending. -/
def OrderBy.isReverse (o : OrderBy) : Bool := o.direction == points descending

/-- The order of a list that asks for none: by id, which decides between any two products. -/
def defaultOrder : OrderBy := ⟨SortField.id.text, ascending⟩

/-! ## Queries in messages -/

/-- An integer is shown without a point, so the two kinds of amount look different. -/
def shownAmount : Amount → String
  | .whole n => toString n
  | .real x => shownReal x

def Filter.shown (f : Filter) : String :=
  shownRecord "QueryFilter"
    [("product_id", shownOption Uuid.shown f.id), ("name", shownOption quoted f.name),
      ("cost", shownOption shownAmount f.cost), ("quantity", shownOption toString f.quantity),
      ("user_id", shownOption Uuid.shown f.userId)]

def OrderBy.shown (o : OrderBy) : String :=
  shownRecord "OrderBy" [("field", quoted o.field), ("direction", quoted o.direction)]

end Stockroom
