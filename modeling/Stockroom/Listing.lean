import Stockroom.Filter
import Stockroom.Number.DecimalText
import Stockroom.Number.Integer
import Stockroom.Problem

/-!
# Listing requests

The parameters of a list request are names with texts. An empty text is no parameter.
`Listing.ofParams` reads page, rows, filter and order; a configuration gives what is missing and the
fields that can be sorted by. Every failure names the parameters that are at fault. A text with a
surrogate in it spells no number and no identifier.
-/

namespace Stockroom

open Number Text

/-! ## Configuration -/

/-- What a list request falls back to, and the fields it may sort by. -/
structure ListConfig where
  page : Int := 1
  rows : Int := 10
  sortable : List Points := SortField.all.map fun f => points f.text
  order : OrderBy := defaultOrder
  one_le_page : 1 ≤ page := by decide
  one_le_rows : 1 ≤ rows := by decide
  order_sortable : order.field ∈ sortable := by decide

inductive ConfigFault where
  | belowOne
  | notSortable (field : Points)
  deriving DecidableEq

def ConfigFault.message : ConfigFault → String
  | .belowOne => "default page and rows must be at least 1"
  | .notSortable field => "default order field " ++ quoted field ++ " is not sortable"

def ConfigFault.kind : ConfigFault → String := fun _ => "ValueError"

/-- The configuration of some settings. The numbers are looked at before the field. -/
def ListConfig.make (page rows : Int) (sortable : List Points) (order : OrderBy) :
    Except ConfigFault ListConfig :=
  if hpages : 1 ≤ page ∧ 1 ≤ rows then
    if hfield : order.field ∈ sortable then
      .ok ⟨page, rows, sortable, order, hpages.1, hpages.2, hfield⟩
    else .error (.notSortable order.field)
  else .error .belowOne

def ListConfig.standard : ListConfig := {}

/-! ## Parameters -/

/-- Names with texts. Of two parameters with one name the later counts. -/
abbrev Params := List (Points × Points)

inductive ParamFault where
  | notInteger (raw : Points)
  | belowOne
  | aboveMax
  | notId (raw : Points)
  | notNumber (raw : Points)
  | outOfRange (raw : Points)
  | orderShape (raw : Points)
  | unknownDirection (raw : Points)
  | notSortable (field : Points)
  | pageOutOfRange
  deriving DecidableEq

/-- What the client is told, with the text that it sent where that helps. -/
def ParamFault.message : ParamFault → String
  | .notInteger raw => quoted raw ++ " is not an integer"
  | .belowOne => "must be at least 1"
  | .aboveMax => "must be at most " ++ toString maxInt64
  | .notId raw => quoted raw ++ " is not a valid id"
  | .notNumber raw => quoted raw ++ " is not a number"
  | .outOfRange raw => quoted raw ++ " is out of range"
  | .orderShape raw => "invalid order specification " ++ quoted raw
  | .unknownDirection raw => "unknown direction " ++ quoted raw
  | .notSortable field => "field " ++ quoted field ++ " is not sortable"
  | .pageOutOfRange => "page is out of range for the given rows"

/-- Why a list request is refused. All unknown names are told at once, other faults one by one. -/
inductive ListFault where
  | unknown (names : List Points)
  | bad (name : Points) (fault : ParamFault)
  deriving DecidableEq

def ListFault.problem : ListFault → Problem
  | .unknown names => .fields (names.map fun name => (name, "unknown filter"))
  | .bad name fault => .field name fault.message

namespace Listing

/-- The parameters that constrain the products of a list. -/
def filterNames : List Points := ["product_id", "name", "cost", "quantity", "user_id"]

/-- The parameters that say how a list is shown. -/
def reservedNames : List Points := ["page", "rows", "orderby"]

/-- The text of a parameter. One that is missing has the empty text. -/
def value (ps : Params) (name : Points) : Points := (ps.reverse.lookup name).getD []

/-- Reads a parameter if its text is not empty. -/
def param {α : Type} (ps : Params) (name : Points) (read : Points → Except ParamFault α) :
    Except ListFault (Option α) :=
  if value ps name = [] then .ok none
  else
    match read (value ps name) with
    | .ok a => .ok (some a)
    | .error fault => .error (.bad name fault)

/-! ## Paging -/

/-- An integer from 1 to `maxInt64`. -/
def readPositive (raw : Points) : Except ParamFault Int :=
  match readPoints? integerOfText? raw with
  | none => .error (.notInteger raw)
  | some n =>
    if n < 1 then .error .belowOne else if maxInt64 < n then .error .aboveMax else .ok n

def positiveInt (ps : Params) (name : Points) (default : Int) : Except ListFault Int :=
  (param ps name readPositive).map (·.getD default)

/-! ## Filters -/

def readId (raw : Points) : Except ParamFault Uuid :=
  match Uuid.ofPoints? raw with
  | some id => .ok id
  | none => .error (.notId raw)

/-- A cost is a finite real, which may be below zero. -/
def readCost (raw : Points) : Except ParamFault Real64 :=
  match readPoints? realOfText? raw with
  | some x => if x.isFinite then .ok x else .error (.notNumber raw)
  | none => .error (.notNumber raw)

/-- A quantity at most `maxInt64` away from zero. -/
def readQuantity (raw : Points) : Except ParamFault Int :=
  match readPoints? integerOfText? raw with
  | none => .error (.notInteger raw)
  | some n => if maxInt64 < n.natAbs then .error (.outOfRange raw) else .ok n

/-- The names that mean nothing in a list request, each once and in order. -/
def unknownNames (ps : Params) : List Points :=
  let known := filterNames ++ reservedNames
  ((ps.map (·.1)).filter fun name => !known.contains name).eraseDups.mergeSort lePoints

/-- The filter of some parameters. A name that means nothing is told before any bad text. -/
def filterOf (ps : Params) : Except ListFault Filter := do
  if unknownNames ps ≠ [] then throw (.unknown (unknownNames ps))
  let id ← param ps "product_id" readId
  let name ← param ps "name" .ok
  let cost ← param ps "cost" readCost
  let quantity ← param ps "quantity" readQuantity
  let userId ← param ps "user_id" readId
  return ⟨id, name, cost.map .real, quantity, userId⟩

/-! ## Order -/

/-- Upper case, as far as it can make a letter of a direction: from the letters of ASCII, and from
the long s U+017F, whose upper case is S. -/
def upperChar (c : Char) : Char := if c.toNat = 0x17F then 'S' else c.toUpper

def upper (s : List Char) : String := String.ofList (s.map upperChar)

def directions : List String := [ascending, descending]

/-- The direction that a text spells in any case of letters. -/
def directionOfText? (s : List Char) : Option String := directions.find? (· == upper s)

/-- The parts of an order between commas, without the blanks around them. -/
def orderParts (raw : Points) : List Points :=
  (raw.splitOn ','.toNat).map (trim (isPointOf isSpace))

/-- A field with a direction behind a comma, or without one. -/
def readOrder (sortable : List Points) (raw : Points) : Except ParamFault OrderBy :=
  let onField (field : Points) (direction : String) : Except ParamFault OrderBy :=
    if field ∈ sortable then .ok ⟨field, direction⟩ else .error (.notSortable field)
  match orderParts raw with
  | [field] => onField field ascending
  | [field, part] =>
    match readPoints? directionOfText? part with
    | some direction => onField field direction
    | none => .error (.unknownDirection part)
  | _ => .error (.orderShape raw)

def orderOf (ps : Params) (config : ListConfig) : Except ListFault OrderBy :=
  (param ps "orderby" (readOrder config.sortable)).map (·.getD config.order)

end Listing

/-- A list request: which page, of how many rows, of what, in which order. -/
structure Listing where
  page : Int
  rows : Int
  filter : Filter
  order : OrderBy
  deriving DecidableEq

namespace Listing

/-- A page whose first row could not be numbered is out of range. -/
def ofParams (ps : Params) (config : ListConfig) : Except ListFault Listing := do
  let page ← positiveInt ps "page" config.page
  let rows ← positiveInt ps "rows" config.rows
  if maxInt64 < (page - 1) * rows then throw (.bad "page" .pageOutOfRange)
  let filter ← filterOf ps
  let order ← orderOf ps config
  return ⟨page, rows, filter, order⟩

def shown (q : Listing) : String :=
  "filter=" ++ q.filter.shown ++ ", order_by=" ++ q.order.shown ++ ", page=" ++ toString q.page ++
    ", rows=" ++ toString q.rows

theorem param_of_value_eq_nil {α : Type} {ps : Params} {name : Points}
    {read : Points → Except ParamFault α} (h : value ps name = []) :
    param ps name read = .ok none := by
  simp [param, h]

end Listing

end Stockroom
