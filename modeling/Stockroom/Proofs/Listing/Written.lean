import Stockroom.Proofs.Listing
import Stockroom.Proofs.Number.Decimal

/-!
# How a list request is written

Every request in range can be asked for. Its parameters are the decimal texts of its integers, the
canonical texts of its ids, any text that spells its cost, and its order as field, comma and
direction; a filter field that is unset is left out or empty. They are read as the request that they
write.
-/

namespace Stockroom

open Number Text

/-- The field and the direction with a comma between them. -/
def OrderBy.text (o : OrderBy) : Points := o.field ++ ','.toNat :: o.direction

theorem OrderBy.text_ne_nil (o : OrderBy) : o.text ≠ [] :=
  List.append_ne_nil_of_right_ne_nil _ (List.cons_ne_nil _ _)

theorem mem_sortable_of_column {o : OrderBy} {column : SortField}
    (h : o.column? = some column) : o.field ∈ ListConfig.standard.sortable := by
  obtain ⟨name, hname, hcolumn⟩ := Option.bind_eq_some_iff.1 h
  rw [← points_of_ofPoints? hname, ← SortField.text_ofText? hcolumn]
  refine List.mem_map_of_mem (f := fun f : SortField => points f.text) ?_
  cases column <;> decide

namespace Listing

variable {ps : Params} {name : Points} {config : ListConfig}

/-- The text of an integer. -/
def decimal (n : Int) : Points := points (toString n)

/-- The text of a field that may be unset. It is empty if the field is. -/
def optionText {α : Type} (text : α → Points) (o : Option α) : Points := (o.map text).getD []

/-- The texts that write a cost: those that are read as that number. -/
def WritesCost : Option Amount → Points → Prop
  | none, raw => raw = []
  | some cost, raw => ∃ x, cost = .real x ∧ readPoints? realOfText? raw = some x

/-- Parameters that write a request. Their order is free, and so is what stands before the last
parameter of a name. -/
structure WrittenIn (q : Listing) (ps : Params) : Prop where
  known : ∀ p ∈ ps, p.1 ∈ filterNames ++ reservedNames
  page : value ps "page" = decimal q.page
  rows : value ps "rows" = decimal q.rows
  order : value ps "orderby" = q.order.text
  id : value ps "product_id" = optionText (fun u => points u.text) q.filter.id
  name : value ps "name" = optionText (fun term => term) q.filter.name
  cost : WritesCost q.filter.cost (value ps "cost")
  quantity : value ps "quantity" = optionText decimal q.filter.quantity
  userId : value ps "user_id" = optionText (fun u => points u.text) q.filter.userId

/-! ## Texts -/

theorem points_ne_nil {s : String} (h : s ≠ "") : points s ≠ [] := by
  rw [points, ne_eq, List.map_eq_nil_iff, String.toList_eq_nil_iff]
  exact h

theorem decimal_ne_nil (n : Int) : decimal n ≠ [] := by
  refine points_ne_nil fun h => ?_
  have hlist := toList_toString n
  rw [h] at hlist
  exact Nat.toDigits_ne_nil (List.append_eq_nil_iff.1 hlist.symm).2

theorem id_text_ne_nil (u : Uuid) : points u.text ≠ [] := by
  refine points_ne_nil fun h => ?_
  have hread := Uuid.ofText?_text u
  rw [h] at hread
  cases hread

theorem param_of_read {α : Type} {read : Points → Except ParamFault α} {a : α}
    (hne : value ps name ≠ []) (h : read (value ps name) = .ok a) :
    param ps name read = .ok (some a) := by
  rw [param, if_neg hne, h]

theorem param_optionText {α : Type} {read : Points → Except ParamFault α} {text : α → Points}
    {o : Option α} (hvalue : value ps name = optionText text o) (hne : ∀ a ∈ o, text a ≠ [])
    (hread : ∀ a ∈ o, read (text a) = .ok a) : param ps name read = .ok o := by
  cases o with
  | none => exact param_of_value_eq_nil hvalue
  | some a =>
    have htext : value ps name = text a := hvalue
    exact param_of_read (htext ▸ hne a rfl) (htext ▸ hread a rfl)

/-! ## Reading each kind of text -/

theorem readPositive_decimal {n : Int} (hn : 1 ≤ n ∧ n ≤ maxInt64) :
    readPositive (decimal n) = .ok n := by
  have hdigits : n.natAbs < 10 ^ digitLimit := natAbs_lt_of_int64 (by omega)
  rw [readPositive, decimal, readPoints?_points, integerOfText?_toString hdigits]
  dsimp only
  rw [if_neg (by omega), if_neg (by omega)]

theorem readQuantity_decimal {n : Int} (hn : -maxInt64 - 1 < n ∧ n < maxInt64 + 1) :
    readQuantity (decimal n) = .ok n := by
  have hdigits : n.natAbs < 10 ^ digitLimit := natAbs_lt_of_int64 (by omega)
  rw [readQuantity, decimal, readPoints?_points, integerOfText?_toString hdigits]
  dsimp only
  rw [if_neg (by omega)]

theorem readId_text (u : Uuid) : readId (points u.text) = .ok u := by
  have hread : Uuid.ofPoints? (points u.text) = some u := by
    rw [Uuid.ofPoints?, readPoints?_points]
    exact Uuid.ofText?_text u
  rw [readId, hread]

theorem param_cost {cost : Option Amount} (hwrites : WritesCost cost (value ps "cost"))
    (hfinite : ∀ a, cost = some a → ∃ x : Real64, a = .real x ∧ x.isFinite = true) :
    ∃ read, param ps "cost" readCost = .ok read ∧ read.map Amount.real = cost := by
  cases cost with
  | none => exact ⟨none, param_of_value_eq_nil hwrites, rfl⟩
  | some a =>
    obtain ⟨x, rfl, hread⟩ := hwrites
    obtain ⟨y, hy, hyfinite⟩ := hfinite _ rfl
    obtain rfl := Amount.real.inj hy
    have hne : value ps "cost" ≠ [] := by
      intro hnil
      rw [hnil] at hread
      cases hread
    refine ⟨some x, param_of_read hne ?_, rfl⟩
    rw [readCost, hread]
    exact if_pos hyfinite

theorem orderParts_text {o : OrderBy} (hfield : o.field ∈ ListConfig.standard.sortable)
    (hdirection : o.direction ∈ directions.map points) :
    orderParts o.text = [o.field, o.direction] := by
  have hall : ∀ field ∈ ListConfig.standard.sortable, ∀ direction ∈ directions.map points,
      orderParts (field ++ ','.toNat :: direction) = [field, direction] := by decide
  exact hall _ hfield _ hdirection

theorem directionOfText?_points {direction : String} (h : direction ∈ directions) :
    readPoints? directionOfText? (points direction) = some direction := by
  revert direction
  decide

theorem readOrder_text {sortable : List Points} {o : OrderBy} (hfield : o.field ∈ sortable)
    (hcolumn : o.field ∈ ListConfig.standard.sortable)
    (hdirection : o.direction ∈ directions.map points) :
    readOrder sortable o.text = .ok o := by
  obtain ⟨direction, hmem, htext⟩ := List.mem_map.1 hdirection
  rw [readOrder, orderParts_text hcolumn hdirection]
  dsimp only
  rw [← htext, directionOfText?_points hmem]
  dsimp only
  rw [if_pos hfield, htext]

theorem unknownNames_eq_nil (h : ∀ p ∈ ps, p.1 ∈ filterNames ++ reservedNames) :
    unknownNames ps = [] := by
  have hfilter : ((ps.map (·.1)).filter fun name =>
      !(filterNames ++ reservedNames).contains name) = [] := by
    rw [List.filter_eq_nil_iff]
    intro n hn
    obtain ⟨p, hp, rfl⟩ := List.mem_map.1 hn
    rw [List.contains_iff_mem.2 (h p hp)]
    decide
  rw [unknownNames, hfilter]
  simp

/-! ## Reading a request back -/

theorem positiveInt_decimal {default n : Int} (hvalue : value ps name = decimal n)
    (hn : 1 ≤ n ∧ n ≤ maxInt64) : positiveInt ps name default = .ok n := by
  rw [positiveInt, param_of_read (hvalue ▸ decimal_ne_nil n) (hvalue ▸ readPositive_decimal hn)]
  rfl

theorem filterOf_of_params {id userId : Option Uuid} {text : Option Points}
    {cost : Option Real64} {quantity : Option Int}
    (hknown : ∀ p ∈ ps, p.1 ∈ filterNames ++ reservedNames)
    (hid : param ps "product_id" readId = .ok id) (hname : param ps "name" .ok = .ok text)
    (hcost : param ps "cost" readCost = .ok cost)
    (hquantity : param ps "quantity" readQuantity = .ok quantity)
    (huser : param ps "user_id" readId = .ok userId) :
    filterOf ps = .ok ⟨id, text, cost.map .real, quantity, userId⟩ := by
  rw [filterOf, if_neg (not_not_intro (unknownNames_eq_nil hknown)), hid, hname, hcost, hquantity,
    huser]
  rfl

theorem filterOf_written {q : Listing} (hq : q.InRange) (hwritten : q.WrittenIn ps) :
    filterOf ps = .ok q.filter := by
  obtain ⟨cost, hcost, hreal⟩ := param_cost hwritten.cost hq.cost
  have hid := param_optionText hwritten.id (fun u _ => id_text_ne_nil u) fun u _ => readId_text u
  have hname : param ps "name" .ok = .ok q.filter.name :=
    param_optionText hwritten.name hq.name fun _ _ => rfl
  have hquantity := param_optionText hwritten.quantity (fun n _ => decimal_ne_nil n)
    fun n hn => readQuantity_decimal (hq.quantity n hn)
  have huser := param_optionText hwritten.userId (fun u _ => id_text_ne_nil u)
    fun u _ => readId_text u
  rw [filterOf_of_params hwritten.known hid hname hcost hquantity huser, hreal]

theorem orderOf_text {o : OrderBy} (hvalue : value ps "orderby" = o.text)
    (hfield : o.field ∈ config.sortable) (hcolumn : o.field ∈ ListConfig.standard.sortable)
    (hdirection : o.direction ∈ directions.map points) : orderOf ps config = .ok o := by
  rw [orderOf, param_of_read (hvalue ▸ o.text_ne_nil)
    (hvalue ▸ readOrder_text hfield hcolumn hdirection)]
  rfl

theorem ofParams_of_parts {q : Listing} (hpage : positiveInt ps "page" config.page = .ok q.page)
    (hrows : positiveInt ps "rows" config.rows = .ok q.rows)
    (hoffset : (q.page - 1) * q.rows ≤ maxInt64) (hfilter : filterOf ps = .ok q.filter)
    (horder : orderOf ps config = .ok q.order) : ofParams ps config = .ok q := by
  rw [ofParams, hpage, hrows]
  show (if maxInt64 < (q.page - 1) * q.rows then _ else _) = _
  rw [if_neg (Int.not_lt.2 hoffset), hfilter, horder]
  rfl

/-- A request in range is read back from all parameters that write it. -/
theorem ofParams_written {q : Listing} (hq : q.InRange)
    (hdirection : q.order.direction ∈ directions.map points) (hwritten : q.WrittenIn ps) :
    ofParams ps ListConfig.standard = .ok q := by
  obtain ⟨column, hcolumn⟩ := hq.column
  have hfield := mem_sortable_of_column hcolumn
  exact ofParams_of_parts (positiveInt_decimal hwritten.page hq.page)
    (positiveInt_decimal hwritten.rows hq.rows) hq.offset.2 (filterOf_written hq hwritten)
    (orderOf_text hwritten.order hfield hfield hdirection)

/-- The second of the largest pages, of the old pears of one owner that cost two and a half. -/
def oldPears : Listing where
  page := 2
  rows := maxInt64
  filter := ⟨some ⟨1⟩, some (points "pear, old"), some (.real (.ofRatio false 5 2)),
    some (-maxInt64), some ⟨7⟩⟩
  order := ⟨SortField.created.text, descending⟩

/-- Parameters that write it, in an order and with a spelling of the cost of their own. -/
def oldPearsParams : Params :=
  [("orderby", points "date_created,DESC"), ("cost", points " 25e-1"),
    ("product_id", points "00000000-0000-0000-0000-000000000001"), ("name", points "pear, old"),
    ("quantity", points "-9223372036854775807"),
    ("user_id", points "00000000-0000-0000-0000-000000000007"),
    ("rows", points "9223372036854775807"), ("page", points "2")]

theorem inRange_oldPears : oldPears.InRange := by
  refine ⟨by decide, by decide, by decide, fun n hn => ?_, fun a ha => ?_, fun term hterm => ?_,
    ⟨.created, by decide⟩⟩
  · cases hn
    decide
  · cases ha
    exact ⟨_, rfl, by decide⟩
  · cases hterm
    decide

theorem oldPears_read : ofParams oldPearsParams ListConfig.standard = .ok oldPears :=
  ofParams_written inRange_oldPears (by decide)
    { known := by decide
      page := by decide
      rows := by decide
      order := by decide
      id := by decide
      name := by decide
      cost := ⟨_, rfl, by decide⟩
      quantity := by decide
      userId := by decide }

end Listing

end Stockroom
