import Stockroom.Number.Layout
import Stockroom.Text.Quoted
import Stockroom.Timestamp
import Stockroom.Uuid

/-!
# Products

A product as callers hold it, the data of a new one, and a patch. A patch leaves every field that it
does not set as it is. The name of a product need not be a string until it is written, and its dates
may have an offset. A product that comes from a table has a string for its name, and its dates have
no offset.
-/

namespace Stockroom

open Number Text

/-- A product that a caller holds, whatever the table has under its id. -/
structure Product where
  id : Uuid
  name : Points
  cost : Real64
  quantity : Int
  userId : Uuid
  created : Moment
  updated : Moment
  deriving DecidableEq

/-- A product as a table gives it. -/
structure StoredProduct where
  id : Uuid
  name : String
  cost : Real64
  quantity : Int
  userId : Uuid
  created : Timestamp
  updated : Timestamp
  deriving DecidableEq

/-- What a product is made of. The catalogue gives it its id and its dates. -/
structure NewProduct where
  name : Points
  cost : Real64
  quantity : Int
  userId : Uuid
  deriving DecidableEq

/-- The fields to change. One that is none stays as it is. -/
structure Patch where
  name : Option Points := none
  cost : Option Real64 := none
  quantity : Option Int := none
  deriving DecidableEq

/-- The product that a caller holds who was given it by the table. -/
def StoredProduct.toProduct (p : StoredProduct) : Product :=
  ⟨p.id, p.name, p.cost, p.quantity, p.userId, ⟨p.created, none⟩, ⟨p.updated, none⟩⟩

instance : Coe StoredProduct Product := ⟨StoredProduct.toProduct⟩

/-- The data from which one would make the product again. -/
def Product.data (p : Product) : NewProduct := ⟨p.name, p.cost, p.quantity, p.userId⟩

def StoredProduct.data (p : StoredProduct) : NewProduct := ⟨p.name, p.cost, p.quantity, p.userId⟩

@[simp] theorem StoredProduct.toProduct_id (p : StoredProduct) : p.toProduct.id = p.id := rfl

@[simp] theorem StoredProduct.toProduct_data (p : StoredProduct) : p.toProduct.data = p.data := rfl

/-- The data with the fields that a patch sets. -/
def NewProduct.patch (p : NewProduct) (change : Patch) : NewProduct :=
  { p with
    name := change.name.getD p.name
    cost := change.cost.getD p.cost
    quantity := change.quantity.getD p.quantity }

/-- The patch that does the work of one patch and then another. -/
def Patch.andThen (first second : Patch) : Patch :=
  ⟨second.name.or first.name, second.cost.or first.cost, second.quantity.or first.quantity⟩

theorem NewProduct.patch_andThen (p : NewProduct) (first second : Patch) :
    p.patch (first.andThen second) = (p.patch first).patch second := by
  cases first; cases second
  simp [NewProduct.patch, Patch.andThen]

/-! ## Products in messages -/

def shownOption {α : Type} (show? : α → String) : Option α → String
  | none => "None"
  | some a => show? a

def shownReal (x : Real64) : String := Layout.shown.text x

/-- A record in a message: its kind, and each field with its value. -/
def shownRecord (kind : String) (fields : List (String × String)) : String :=
  kind ++ "(" ++ ", ".intercalate (fields.map fun f => f.1 ++ "=" ++ f.2) ++ ")"

def NewProduct.shown (p : NewProduct) : String :=
  shownRecord "ProductCreate"
    [("name", quoted p.name), ("cost", shownReal p.cost), ("quantity", toString p.quantity),
      ("user_id", p.userId.shown)]

def Patch.shown (p : Patch) : String :=
  shownRecord "ProductUpdate"
    [("name", shownOption quoted p.name), ("cost", shownOption shownReal p.cost),
      ("quantity", shownOption toString p.quantity)]

end Stockroom
