import Stockroom.Listing
import Stockroom.Store

/-!
# What the parameters of a list request come to

Numbers that come through fit the store: the page, the rows, the offset of the page and the
quantity. The order names a column.
-/

namespace Stockroom

open Number Text

theorem exists_of_bind_eq_ok {ε α β : Type} {x : Except ε α} {f : α → Except ε β} {b : β}
    (h : x >>= f = .ok b) : ∃ a, x = .ok a ∧ f a = .ok b := by
  cases x with
  | error e => cases h
  | ok a => exact ⟨a, rfl, h⟩

theorem error_of_bind_eq_error {ε α β : Type} {x : Except ε α} {f : α → Except ε β} {e : ε}
    (h : x >>= f = .error e) : x = .error e ∨ ∃ a, x = .ok a ∧ f a = .error e := by
  cases x with
  | error e' => exact Or.inl (congrArg Except.error (Except.error.inj h))
  | ok a => exact Or.inr ⟨a, rfl, h⟩

theorem exists_of_map_eq_ok {ε α β : Type} {x : Except ε α} {f : α → β} {b : β}
    (h : x.map f = .ok b) : ∃ a, x = .ok a ∧ f a = b := by
  cases x with
  | error e => cases h
  | ok a => exact ⟨a, rfl, Except.ok.inj h⟩

theorem error_of_map_eq_error {ε α β : Type} {x : Except ε α} {f : α → β} {e : ε}
    (h : x.map f = .error e) : x = .error e := by
  cases x with
  | error e' => exact congrArg Except.error (Except.error.inj h)
  | ok a => cases h

theorem eq_ok_of_toOption {ε α : Type} {e : Except ε α} {a : α} (h : e.toOption = some a) :
    e = .ok a := by
  cases e with
  | error _ => cases h
  | ok b => rw [Option.some.inj h]

namespace Listing

variable {ps : Params} {name : Points} {config : ListConfig}

/-! ## Parameters -/

theorem mem_of_value_ne_nil (h : value ps name ≠ []) : (name, value ps name) ∈ ps := by
  unfold value at h ⊢
  cases hlookup : ps.reverse.lookup name with
  | none => simp [hlookup] at h
  | some raw =>
    obtain ⟨before, later, heq, -⟩ := List.lookup_eq_some_iff.1 hlookup
    rw [Option.getD_some, ← List.mem_reverse, heq]
    exact List.mem_append_right _ List.mem_cons_self

theorem name_mem_of_value_ne_nil (h : value ps name ≠ []) : name ∈ ps.map Prod.fst :=
  List.mem_map_of_mem (mem_of_value_ne_nil h)

theorem value_singleton {x name other : Points} :
    value [(name, x)] other = if other = name then x else [] := by
  rw [value, List.reverse_singleton, List.lookup_singleton]
  split
  · next h => rw [if_pos (beq_iff_eq.1 h)]; rfl
  · next h => rw [if_neg (by simpa using h)]; rfl

theorem read_of_param {α : Type} {read : Points → Except ParamFault α} {a : α}
    (h : param ps name read = .ok (some a)) :
    value ps name ≠ [] ∧ read (value ps name) = .ok a := by
  unfold param at h
  split at h
  · cases h
  · next hne =>
    split at h
    · next b hb =>
      cases h
      exact ⟨hne, hb⟩
    · cases h

section

variable {α : Type} {read : Points → Except ParamFault α} {default : α}
variable (hne : value ps name ≠ [])
include hne

theorem param_getD_eq :
    (param ps name read).map (·.getD default) = (read (value ps name)).mapError (.bad name) := by
  rw [param, if_neg hne]
  cases read (value ps name) <;> rfl

theorem param_getD_eq_ok_iff {a : α} :
    (param ps name read).map (·.getD default) = .ok a ↔ read (value ps name) = .ok a := by
  rw [param_getD_eq hne]
  constructor
  · intro h
    cases hread : read (value ps name) with
    | error f =>
      rw [hread] at h
      cases h
    | ok b =>
      rw [hread] at h
      cases h
      rfl
  · intro h
    rw [h]
    rfl

theorem param_getD_eq_error_iff {fault : ListFault} :
    (param ps name read).map (·.getD default) = .error fault ↔
      ∃ f, read (value ps name) = .error f ∧ fault = .bad name f := by
  rw [param_getD_eq hne]
  constructor
  · intro h
    cases hread : read (value ps name) with
    | error f =>
      rw [hread] at h
      cases h
      exact ⟨f, rfl, rfl⟩
    | ok b =>
      rw [hread] at h
      cases h
  · rintro ⟨f, hread, rfl⟩
    rw [hread]
    rfl

end

/-! ## Numbers -/

theorem bounds_of_readPositive {raw : Points} {n : Int} (h : readPositive raw = .ok n) :
    1 ≤ n ∧ n ≤ maxInt64 := by
  unfold readPositive at h
  split at h
  · cases h
  · split at h
    · cases h
    · split at h
      · cases h
      · cases h
        omega

theorem bounds_of_readQuantity {raw : Points} {n : Int} (h : readQuantity raw = .ok n) :
    -maxInt64 ≤ n ∧ n ≤ maxInt64 := by
  unfold readQuantity at h
  split at h
  · cases h
  · split at h
    · cases h
    · cases h
      omega

theorem bounds_of_positiveInt {default n : Int} (hdefault : 1 ≤ default ∧ default ≤ maxInt64)
    (h : positiveInt ps name default = .ok n) : 1 ≤ n ∧ n ≤ maxInt64 := by
  obtain ⟨result, hparam, hn⟩ := exists_of_map_eq_ok h
  cases result with
  | none => exact hn ▸ hdefault
  | some m =>
    rw [Option.getD_some] at hn
    exact hn ▸ bounds_of_readPositive (read_of_param hparam).2

/-! ## Filters and orders -/

theorem filterOf_eq_ok {f : Filter} (h : filterOf ps = .ok f) :
    param ps "product_id" readId = .ok f.id ∧ param ps "name" .ok = .ok f.name ∧
      (∃ cost, param ps "cost" readCost = .ok cost ∧ f.cost = cost.map .real) ∧
      param ps "quantity" readQuantity = .ok f.quantity ∧
      param ps "user_id" readId = .ok f.userId := by
  unfold filterOf at h
  split at h
  · cases h
  · obtain ⟨id, hid, h⟩ := exists_of_bind_eq_ok h
    obtain ⟨name, hname, h⟩ := exists_of_bind_eq_ok h
    obtain ⟨cost, hcost, h⟩ := exists_of_bind_eq_ok h
    obtain ⟨quantity, hquantity, h⟩ := exists_of_bind_eq_ok h
    obtain ⟨userId, huserId, h⟩ := exists_of_bind_eq_ok h
    cases h
    exact ⟨hid, hname, ⟨cost, hcost, rfl⟩, hquantity, huserId⟩

theorem mem_directions_of_readPoints? {part : Points} {direction : String}
    (h : readPoints? directionOfText? part = some direction) : direction ∈ directions := by
  obtain ⟨s, -, hs⟩ := Option.bind_eq_some_iff.1 h
  exact List.mem_of_find?_eq_some hs

theorem mem_of_readOrder {sortable : List Points} {raw : Points} {o : OrderBy}
    (h : readOrder sortable raw = .ok o) :
    o.field ∈ sortable ∧ o.direction ∈ directions.map points := by
  have honField (field : Points) {direction : String} (hdirection : direction ∈ directions)
      (ho : (if field ∈ sortable then Except.ok ⟨field, direction⟩
        else .error (ParamFault.notSortable field)) = .ok o) :
      o.field ∈ sortable ∧ o.direction ∈ directions.map points := by
    split at ho
    · next hfield =>
      cases ho
      exact ⟨hfield, List.mem_map_of_mem hdirection⟩
    · cases ho
  unfold readOrder at h
  dsimp only at h
  split at h
  · exact honField _ (by decide) h
  · split at h
    · next hread => exact honField _ (mem_directions_of_readPoints? hread) h
    · cases h
  · cases h

theorem field_mem_of_orderOf {o : OrderBy} (h : orderOf ps config = .ok o) :
    o.field ∈ config.sortable := by
  obtain ⟨result, hparam, rfl⟩ := exists_of_map_eq_ok h
  cases result with
  | none => exact config.order_sortable
  | some o => exact (mem_of_readOrder (read_of_param hparam).2).1

theorem exists_column {o : OrderBy} (h : o.field ∈ ListConfig.standard.sortable) :
    ∃ column, o.column? = some column := by
  obtain ⟨column, -, hcolumn⟩ := List.mem_map.1 h
  refine ⟨column, ?_⟩
  rw [OrderBy.column?, ← hcolumn, ofPoints?_points, Option.bind_some, SortField.ofText?_text]

/-! ## Requests -/

theorem ofParams_eq_ok {q : Listing} (h : ofParams ps config = .ok q) :
    positiveInt ps "page" config.page = .ok q.page ∧
      positiveInt ps "rows" config.rows = .ok q.rows ∧ (q.page - 1) * q.rows ≤ maxInt64 ∧
      filterOf ps = .ok q.filter ∧ orderOf ps config = .ok q.order := by
  unfold ofParams at h
  obtain ⟨page, hpage, h⟩ := exists_of_bind_eq_ok h
  obtain ⟨rows, hrows, h⟩ := exists_of_bind_eq_ok h
  split at h
  · cases h
  · next hoffset =>
    obtain ⟨filter, hfilter, h⟩ := exists_of_bind_eq_ok h
    obtain ⟨order, horder, h⟩ := exists_of_bind_eq_ok h
    cases h
    exact ⟨hpage, hrows, Int.not_lt.1 hoffset, hfilter, horder⟩

end Listing

def ListFault.names : ListFault → List Points
  | .unknown names => names
  | .bad name _ => [name]

theorem ListFault.exists_fields (fault : ListFault) :
    ∃ faults, fault.problem = .fields faults ∧ faults.map Prod.fst = fault.names ∧
      ∀ f ∈ faults, IsClean f.2 := by
  cases fault with
  | unknown names =>
    refine ⟨_, rfl, ?_, ?_⟩
    · simp [ListFault.names, Function.comp_def]
    · intro f hf
      obtain ⟨n, -, rfl⟩ := List.mem_map.1 hf
      exact isClean_points "unknown filter"
  | bad name fault =>
    refine ⟨_, rfl, rfl, ?_⟩
    intro f hf
    obtain rfl := List.mem_singleton.1 hf
    exact isClean_points fault.message

namespace Listing

variable {ps : Params} {config : ListConfig}

/-! ## What the store is asked for -/

theorem filterFault?_eq_none {f : Filter} (hname : ∀ term, f.name = some term → IsClean term)
    (hcost : ∀ cost, f.cost = some cost → cost.fits = true)
    (hquantity : ∀ n, f.quantity = some n → fitsInt64 n = true) : Store.filterFault? f = none := by
  have hrun : (f.name.bind fun term => surrogateRun? (Like.escape term)) = none := by
    cases hvalue : f.name with
    | none => rfl
    | some term => exact surrogateRun?_eq_none (Like.isClean_escape (hname term hvalue))
  have hallows {α : Type} {test : α → Bool} {o : Option α}
      (h : ∀ a, o = some a → test a = true) : Row.allows test o = true := by
    cases o with
    | none => rfl
    | some a => exact h a rfl
  rw [Store.filterFault?, hrun, hallows hquantity, hallows hcost]
  rfl

/-- A request that the store can take: every number has 64 bits, the name is a string, and the order
names a column. -/
structure Fits (q : Listing) : Prop where
  page : 1 ≤ q.page
  rows : 1 ≤ q.rows ∧ q.rows ≤ maxInt64
  offset : (q.page - 1) * q.rows ≤ maxInt64
  filter : Store.filterFault? q.filter = none
  column : ∃ column, q.order.column? = some column

/-- The numbers of a request are those that a column or an offset can hold. -/
structure InRange (q : Listing) : Prop where
  page : 1 ≤ q.page ∧ q.page ≤ maxInt64
  rows : 1 ≤ q.rows ∧ q.rows ≤ maxInt64
  offset : 0 ≤ (q.page - 1) * q.rows ∧ (q.page - 1) * q.rows ≤ maxInt64
  quantity : ∀ n, q.filter.quantity = some n → -maxInt64 - 1 < n ∧ n < maxInt64 + 1
  cost : ∀ cost, q.filter.cost = some cost → ∃ x : Real64, cost = .real x ∧ x.isFinite = true
  name : ∀ term, q.filter.name = some term → term ≠ []
  column : ∃ field, q.order.column? = some field

theorem isFinite_of_readCost {raw : Points} {x : Real64} (h : readCost raw = .ok x) :
    x.isFinite = true := by
  unfold readCost at h
  split at h
  · split at h
    · next hfinite =>
      cases h
      exact hfinite
    · cases h
  · cases h

theorem inRange_of_ofParams (hpage : config.page ≤ maxInt64) (hrows : config.rows ≤ maxInt64)
    (hsortable : ∀ field ∈ config.sortable, field ∈ ListConfig.standard.sortable)
    {q : Listing} (h : ofParams ps config = .ok q) : q.InRange := by
  obtain ⟨hparam, hparam', hoffset, hfilter, horder⟩ := ofParams_eq_ok h
  obtain ⟨-, hname, ⟨cost, hcost, hreal⟩, hquantity, -⟩ := filterOf_eq_ok hfilter
  have hpages := bounds_of_positiveInt ⟨config.one_le_page, hpage⟩ hparam
  have hlimit := bounds_of_positiveInt ⟨config.one_le_rows, hrows⟩ hparam'
  refine ⟨hpages, hlimit, ⟨Int.mul_nonneg (by omega) (by omega), hoffset⟩, fun n hn => ?_,
    fun a ha => ?_, fun term hterm => ?_, exists_column (hsortable _ (field_mem_of_orderOf horder))⟩
  · have := bounds_of_readQuantity (read_of_param (hn ▸ hquantity)).2
    omega
  · obtain ⟨x, rfl, rfl⟩ := Option.map_eq_some_iff.1 (hreal ▸ ha)
    exact ⟨x, rfl, isFinite_of_readCost (read_of_param hcost).2⟩
  · obtain ⟨hne, hread⟩ := read_of_param (hterm ▸ hname)
    exact Except.ok.inj hread ▸ hne

theorem InRange.fits {q : Listing} (hq : q.InRange)
    (hclean : ∀ term, q.filter.name = some term → IsClean term) : q.Fits := by
  refine ⟨hq.page.1, hq.rows, hq.offset.2, ?_, hq.column⟩
  refine filterFault?_eq_none hclean (fun cost hcost => ?_) fun n hn => ?_
  · obtain ⟨x, rfl, -⟩ := hq.cost cost hcost
    rfl
  · have := hq.quantity n hn
    rw [fitsInt64, decide_eq_true_eq]
    omega

theorem fits_of_ofParams (hclean : ∀ p ∈ ps, IsClean p.2) {q : Listing}
    (h : ofParams ps ListConfig.standard = .ok q) : q.Fits := by
  have hq : q.InRange := inRange_of_ofParams (by decide) (by decide) (fun _ hfield => hfield) h
  refine hq.fits fun term hterm => ?_
  obtain ⟨-, -, -, hfilter, -⟩ := ofParams_eq_ok h
  obtain ⟨-, hname, -⟩ := filterOf_eq_ok hfilter
  obtain ⟨hne, hread⟩ := read_of_param (hterm ▸ hname)
  obtain rfl := Except.ok.inj hread
  exact hclean _ (mem_of_value_ne_nil hne)

/-- A name alone asks for the first page of what has it. -/
theorem ofParams_name {text : Points} (h : text ≠ []) :
    ofParams [("name", text)] ListConfig.standard =
      .ok ⟨1, 10, { name := some text }, defaultOrder⟩ := by
  have hother (other : Points) (ho : other ≠ points "name") {α : Type}
      (read : Points → Except ParamFault α) :
      param [(points "name", text)] other read = .ok none := by
    rw [param, value_singleton, if_neg ho]
    rfl
  have hname : param [(points "name", text)] "name" .ok = .ok (some text) := by
    rw [param, value_singleton, if_pos rfl, if_neg h]
  have hunknown : unknownNames [(points "name", text)] = [] := by
    have hfilter : [points "name"].filter
        (fun name => !(filterNames ++ reservedNames).contains name) = [] := by decide
    rw [unknownNames, List.map_singleton, hfilter]
    simp
  rw [ofParams, positiveInt, positiveInt, orderOf, filterOf, hunknown, hname,
    hother "page" (by decide), hother "rows" (by decide), hother "product_id" (by decide),
    hother "cost" (by decide), hother "quantity" (by decide), hother "user_id" (by decide),
    hother "orderby" (by decide)]
  rfl
end Listing

end Stockroom
