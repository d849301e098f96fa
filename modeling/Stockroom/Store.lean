import Stockroom.Filter
import Stockroom.Number.Integer
import Stockroom.Store.Like
import Stockroom.Text.SurrogateRun

/-!
# The store

A table of rows with one row per id. Ids stand in it as text, and every text in it is a string. A
write either fails and leaves the table as it is, or changes one row. `select?` gives the rows of a
filter, and `page?` one page of them in an order.
-/

namespace Stockroom

open Number Text

structure Row where
  id : String
  name : String
  cost : Real64
  quantity : Int
  userId : String
  created : Timestamp
  updated : Timestamp
  deriving DecidableEq

/-- The rows, in the order of their insertion. -/
structure Store where
  rows : List Row := []
  deriving DecidableEq

inductive StoreFault where
  | notEncodable (run : SurrogateRun)
  | integerTooLarge
  | costMissing
  | duplicateId
  | patternTooLong
  | noTable
  | unreachable
  deriving DecidableEq

/-- The text of the error, in the words of the driver. -/
def StoreFault.message : StoreFault → String
  | .notEncodable run => run.message
  | .integerTooLarge => "Python int too large to convert to SQLite INTEGER"
  | .costMissing => "NOT NULL constraint failed: products.cost"
  | .duplicateId => "UNIQUE constraint failed: products.product_id"
  | .patternTooLong => "LIKE or GLOB pattern too complex"
  | .noTable => "no such table: products"
  | .unreachable => "unable to open database file"

/-- A text as the store takes it. -/
def storedText (p : Points) : Except StoreFault String := (toText p).mapError .notEncodable

namespace Row

/-- The row with its cost as the column keeps it. -/
def stored (r : Row) : Row := { r with cost := r.cost.stored }

/-- What is wrong with a row by itself. An integer is looked at before anything is written. -/
def fault? (r : Row) : Option StoreFault :=
  if !fitsInt64 r.quantity then some .integerTooLarge
  else if r.cost.isNan then some .costMissing
  else none

/-! ## Filters -/

/-- A test on a constraint that may be missing. -/
def allows {α : Type} (test : α → Bool) : Option α → Bool
  | none => true
  | some a => test a

/-- Whether a row passes every constraint that a filter sets. -/
def satisfies (f : Filter) (r : Row) : Bool :=
  allows (fun id => r.id == id.text) f.id &&
  allows (fun name => Like.nameMatches name r.name) f.name &&
  allows (fun cost => cost.equals r.cost) f.cost &&
  allows (fun quantity => r.quantity == quantity) f.quantity &&
  allows (fun id => r.userId == id.text) f.userId

/-- Whether the name of a row is looked at. An index on the ids comes before that: on the id if the
filter has one, else on the user. -/
def isCandidate (f : Filter) (r : Row) : Bool :=
  match f.id with
  | some id => r.id == id.text
  | none => allows (fun id => r.userId == id.text) f.userId

/-! ## The order of a column -/

/-- Texts are compared by code points, reals and times as what they stand for. -/
def le (field : SortField) (a b : Row) : Bool :=
  match field with
  | .id => Text.le a.id b.id
  | .name => Text.le a.name b.name
  | .cost => a.cost.le b.cost
  | .quantity => decide (a.quantity ≤ b.quantity)
  | .userId => Text.le a.userId b.userId
  | .created => a.created.le b.created

/-- The order of a column or its reverse. -/
def ordered (field : SortField) (reverse : Bool) (a b : Row) : Bool :=
  if reverse then le field b a else le field a b

theorem le_trans (field : SortField) {a b c : Row} (hab : le field a b = true)
    (hbc : le field b c = true) : le field a c = true := by
  cases field <;> simp only [le] at *
  · exact Text.le_trans hab hbc
  · exact Text.le_trans hab hbc
  · exact Real64.le_trans hab hbc
  · simp only [decide_eq_true_eq] at *; omega
  · exact Text.le_trans hab hbc
  · exact Timestamp.le_trans hab hbc

theorem le_total (field : SortField) (a b : Row) :
    (le field a b || le field b a) = true := by
  cases field <;> simp only [le]
  · exact Text.le_total a.id b.id
  · exact Text.le_total a.name b.name
  · exact Real64.le_total a.cost b.cost
  · simp only [Bool.or_eq_true, decide_eq_true_eq]; omega
  · exact Text.le_total a.userId b.userId
  · exact Timestamp.le_total a.created b.created

theorem ordered_trans (field : SortField) (reverse : Bool) (a b c : Row)
    (hab : ordered field reverse a b = true) (hbc : ordered field reverse b c = true) :
    ordered field reverse a c = true := by
  cases reverse
  · exact le_trans field hab hbc
  · exact le_trans field hbc hab

theorem ordered_total (field : SortField) (reverse : Bool) (a b : Row) :
    (ordered field reverse a b || ordered field reverse b a) = true := by
  cases reverse
  · exact le_total field a b
  · exact le_total field b a

end Row

namespace Store

def find? (s : Store) (id : String) : Option Row := s.rows.find? (·.id == id)

def contains (s : Store) (id : String) : Bool := s.rows.any (·.id == id)

/-! ## Writes -/

/-- Adds a row at the end, if its id is not there yet. -/
def insert (s : Store) (r : Row) : Except StoreFault Store :=
  match r.fault? with
  | some fault => .error fault
  | none =>
    if s.contains r.id then .error .duplicateId else .ok ⟨s.rows ++ [r.stored]⟩

/-- Puts a row in the place of the one with its id. -/
def replace (s : Store) (r : Row) : Except StoreFault Store :=
  match r.fault? with
  | some fault => .error fault
  | none => .ok ⟨s.rows.map fun old => if old.id == r.id then r.stored else old⟩

def erase (s : Store) (id : String) : Store := ⟨s.rows.filter (·.id != id)⟩

/-! ## Filters -/

open Row (allows)

/-- A pattern that is too long is a fault once the name of a row is looked at. -/
def patternFault (s : Store) (f : Filter) : Bool :=
  match f.name with
  | none => false
  | some name =>
    decide (Like.patternLimit < Like.patternBytes name) && s.rows.any (Row.isCandidate f)

/-- What is wrong with the values of a filter, whatever is in the store. The name is looked at
first, as it stands in its pattern. -/
def filterFault? (f : Filter) : Option StoreFault :=
  match f.name.bind fun name => surrogateRun? (Like.escape name) with
  | some run => some (.notEncodable run)
  | none =>
    if allows fitsInt64 f.quantity && allows Amount.fits f.cost then none else some .integerTooLarge

/-- The rows of a filter in the order of their insertion. -/
def select? (s : Store) (f : Filter) : Except StoreFault (List Row) :=
  match filterFault? f with
  | some fault => .error fault
  | none =>
    if s.patternFault f then .error .patternTooLong
    else .ok (s.rows.filter (Row.satisfies f))

def count? (s : Store) (f : Filter) : Except StoreFault Nat := (s.select? f).map List.length

/-! ## Order and pages -/

/-- Whether an index on the column of an order hands out the rows. One on the ids that a filter asks
for comes before it. -/
def isIndexed (f : Filter) (field : SortField) : Bool :=
  f.id.isNone && f.userId.isNone && (field == .name || field == .userId)

/-- The rows of a filter as they come, which is in the order of their insertion unless the index of
the column is walked backwards. -/
def scanned (f : Filter) (field : SortField) (reverse : Bool) (rows : List Row) : List Row :=
  if reverse && isIndexed f field then rows.reverse else rows

/-- The rows of a filter in the order of a column. Rows that are tied stand as they come. -/
def sorted (f : Filter) (field : SortField) (reverse : Bool) (rows : List Row) : List Row :=
  (scanned f field reverse rows).mergeSort (Row.ordered field reverse)

/-- A negative offset skips nothing, and a negative limit keeps everything. -/
def slice {α : Type} (offset limit : Int) (rows : List α) : List α :=
  let rest := rows.drop offset.toNat
  if limit < 0 then rest else rest.take limit.toNat

/-- A limit of zero looks at no row. -/
def page? (s : Store) (f : Filter) (field : SortField) (reverse : Bool) (offset limit : Int) :
    Except StoreFault (List Row) :=
  match filterFault? f with
  | some fault => .error fault
  | none =>
    if !fitsInt64 offset || !fitsInt64 limit then .error .integerTooLarge
    else if limit = 0 then .ok []
    else (s.select? f).map fun rows => slice offset limit (sorted f field reverse rows)

theorem scanned_perm (f : Filter) (field : SortField) (reverse : Bool) (rows : List Row) :
    (scanned f field reverse rows).Perm rows := by
  unfold scanned
  split
  · exact List.reverse_perm rows
  · exact List.Perm.refl rows

theorem sorted_perm (f : Filter) (field : SortField) (reverse : Bool) (rows : List Row) :
    (sorted f field reverse rows).Perm rows :=
  (List.mergeSort_perm _ _).trans (scanned_perm f field reverse rows)

theorem pairwise_sorted (f : Filter) (field : SortField) (reverse : Bool) (rows : List Row) :
    (sorted f field reverse rows).Pairwise fun a b => Row.ordered field reverse a b = true :=
  List.pairwise_mergeSort (Row.ordered_trans field reverse) (Row.ordered_total field reverse) _

theorem sorted_of_pairwise {f : Filter} {field : SortField} {rows : List Row}
    (h : rows.Pairwise fun a b => Row.ordered field false a b = true) :
    sorted f field false rows = rows := by
  rw [sorted, scanned, Bool.false_and, if_neg Bool.false_ne_true, List.mergeSort_of_pairwise h]

end Store

end Stockroom
