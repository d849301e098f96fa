import Stockroom.Proofs.Catalogue
import Stockroom.Proofs.Store.Put

/-!
# Calls about one product

What an update or a removal comes to depends on the row of its product alone, and on the clock in
nothing but the time of the last change.
-/

namespace Stockroom

open Number Text

/-! ## Times of last change -/

def StoredProduct.asOf (now : Timestamp) (p : StoredProduct) : StoredProduct :=
  { p with updated := now }

@[simp] theorem StoredProduct.asOf_id (now : Timestamp) (p : StoredProduct) :
    (p.asOf now).id = p.id := rfl

@[simp] theorem StoredProduct.asOf_asOf (now later : Timestamp) (p : StoredProduct) :
    (p.asOf now).asOf later = p.asOf later := rfl

def Answer.asOf (now : Timestamp) : Answer → Answer
  | .product p => .product (p.asOf now)
  | answer => answer

/-- The store with the time of the last change of a product in the row of that product. -/
def Store.dated (s : Store) (p : StoredProduct) : Store :=
  ⟨s.rows.map fun r => if r.id = p.id.text then { r with updated := p.updated } else r⟩

def Table.dated : Table → StoredProduct → Table
  | .ready s, p => .ready (s.dated p)
  | table, _ => table

theorem Store.dated_put (s : Store) (p : StoredProduct) (now : Timestamp) :
    (s.put p.id.text (some p.row)).dated (p.asOf now) =
      s.put p.id.text (some (p.asOf now).row) := by
  rw [dated, put, put, List.map_filterMap]
  refine congrArg Store.mk (List.filterMap_congr fun old _ => ?_)
  by_cases hid : old.id = p.id.text
  · rw [if_pos hid, if_pos hid]
    exact congrArg some (if_pos rfl)
  · rw [if_neg hid, if_neg hid]
    exact congrArg some (if_neg hid)

/-! ## How a call ends -/

namespace Catalogue

variable {src : Sources} {s : Store} {n k : Nat} {held : Product} {change : Patch}

/-- How an update ends at a time, if this is the row of its product, and the row that it leaves. -/
def rewritten (held : Product) (change : Patch) (now : Timestamp) :
    Option Row → Except CoreFault StoredProduct × Option Row
  | none => (.error (.notFound held.id), none)
  | some old =>
    match changedRow old (held.data.patch change) now with
    | .error fault => (.error (.store fault), some old)
    | .ok row =>
      match row.fault? with
      | some fault => (.error (.store fault), some old)
      | none => (row.stored.product, some row.stored)

theorem rewritten_of_ok {old row : Row} {now : Timestamp}
    (hrow : changedRow old (held.data.patch change) now = .ok row) (hfault : row.fault? = none) :
    rewritten held change now (some old) = (row.stored.product, some row.stored) := by
  simp [rewritten, hrow, hfault]

theorem rewritten_of_error {old : Row} {now : Timestamp} {fault : StoreFault}
    (h : changedRow old (held.data.patch change) now >>= s.replace = .error fault) :
    rewritten held change now (some old) = (.error (.store fault), some old) := by
  cases hrow : changedRow old (held.data.patch change) now with
  | error fault' =>
    rw [hrow] at h
    obtain rfl : fault' = fault := Except.error.inj h
    simp [rewritten, hrow]
  | ok row =>
    rw [hrow] at h
    change s.replace row = .error fault at h
    cases hfault : row.fault? with
    | none => simp [Store.replace, hfault] at h
    | some fault' =>
      obtain rfl : fault' = fault := by simpa [Store.replace, hfault] using h
      simp [rewritten, hrow, hfault]

theorem update_put (src : Sources) (held : Product) (change : Patch) (hs : s.Keyed) (n k : Nat) :
    (update src held change ⟨.ready s, n, k⟩).result =
        (rewritten held change (src.clock k) (s.find? held.id.text)).1 ∧
      (update src held change ⟨.ready s, n, k⟩).state =
        ⟨.ready (s.put held.id.text
          (rewritten held change (src.clock k) (s.find? held.id.text)).2), n, k + 1⟩ := by
  have hself := Store.put_find? hs held.id.text
  rcases update_cases src held change s n k with
    ⟨hold, heq⟩ | ⟨old, row, t, hold, hrow, hrep, heq⟩ | ⟨old, fault, hold, hfault, heq⟩
  · rw [hold] at hself ⊢
    rw [heq, rewritten, hself]
    exact ⟨rfl, rfl⟩
  · have hid : row.id = held.id.text := by rw [changedRow_id hrow, Store.id_of_find? hold]
    rw [heq, hold, rewritten_of_ok hrow (Store.replace_eq_ok_iff.1 hrep).1,
      Store.replace_eq_put hrep, hid]
    exact ⟨rfl, rfl⟩
  · rw [hold] at hself ⊢
    rw [heq, rewritten_of_error hfault, hself]
    exact ⟨rfl, rfl⟩

theorem delete_put (held : Product) (s : Store) (n k : Nat) :
    (delete held ⟨.ready s, n, k⟩).result = .ok () ∧
      (delete held ⟨.ready s, n, k⟩).state = ⟨.ready (s.put held.id.text none), n, k⟩ := by
  rcases delete_cases held s n k with ⟨-, heq⟩ | ⟨hgone, heq⟩
  · rw [heq, Store.erase_eq_put]
    exact ⟨rfl, rfl⟩
  · have hself : s.put held.id.text none = s :=
      Store.put_eq_self fun old hold hid =>
        absurd hid (Store.contains_eq_false_iff.1 hgone old hold)
    rw [heq, hself]
    exact ⟨rfl, rfl⟩

theorem exists_rewritten {old : Row} (hold : old.WellFormed) (hid : old.id = held.id.text)
    {name : String} (hname : storedText (held.data.patch change).name = .ok name)
    (hcost : (held.data.patch change).cost.isNan = false)
    (hquantity : fitsInt64 (held.data.patch change).quantity = true) :
    ∃ q : StoredProduct, q.id = held.id ∧
      (∀ now, (q.asOf now).row = { old with
        name := name, cost := (held.data.patch change).cost.stored
        quantity := (held.data.patch change).quantity, updated := now }) ∧
      ∀ now, rewritten held change now (some old) =
        (.ok (q.asOf now), some (q.asOf now).row) := by
  have hrow (now : Timestamp) : changedRow old (held.data.patch change) now = .ok { old with
      name := name, cost := (held.data.patch change).cost
      quantity := (held.data.patch change).quantity, updated := now } :=
    changedRow_eq_ok_iff.2 ⟨name, hname, rfl⟩
  have hfault (now : Timestamp) : Row.fault? { old with
      name := name, cost := (held.data.patch change).cost
      quantity := (held.data.patch change).quantity, updated := now } = none :=
    Row.fault?_eq_none_iff.2 ⟨hquantity, hcost⟩
  obtain ⟨q, hq⟩ := (wellFormed_of_changedRow (hrow old.updated) hold (hfault _)).exists_product
  have hstored (now : Timestamp) : Row.stored { old with
      name := name, cost := (held.data.patch change).cost
      quantity := (held.data.patch change).quantity, updated := now } = (q.asOf now).row :=
    congrArg (fun r : Row => { r with updated := now }) hq
  refine ⟨q, Uuid.text_injective ?_, fun now => (hstored now).symm, fun now => ?_⟩
  · rw [← hid, ← StoredProduct.row_id, ← hq]
    rfl
  · rw [rewritten_of_ok (hrow now) (hfault now), hstored now, Row.product_row]

/-- An update fails at all times, or gives one product at all times. -/
theorem rewritten_cases (held : Product) (change : Patch) {old : Option Row}
    (hold : ∀ r ∈ old, r.WellFormed ∧ r.id = held.id.text) :
    (∃ fault, ∀ now, rewritten held change now old = (.error fault, old)) ∨
      ∃ q : StoredProduct, q.id = held.id ∧
        ∀ now, rewritten held change now old = (.ok (q.asOf now), some (q.asOf now).row) := by
  cases old with
  | none => exact Or.inl ⟨.notFound held.id, fun _ => rfl⟩
  | some old =>
    obtain ⟨hwf, hid⟩ := hold old rfl
    cases hname : storedText (held.data.patch change).name with
    | error fault =>
      refine Or.inl ⟨.store fault, fun now => ?_⟩
      simp [rewritten, changedRow, hname, Except.map]
    | ok name =>
      by_cases hquantity : fitsInt64 (held.data.patch change).quantity = true
      · by_cases hcost : (held.data.patch change).cost.isNan = true
        · refine Or.inl ⟨.store .costMissing, fun now => ?_⟩
          simp [rewritten, changedRow, hname, Except.map, Row.fault?, hquantity, hcost]
        · obtain ⟨q, hq, -, hall⟩ := exists_rewritten hwf hid hname (by simpa using hcost) hquantity
          exact Or.inr ⟨q, hq, hall⟩
      · refine Or.inl ⟨.store .integerTooLarge, fun now => ?_⟩
        simp [rewritten, changedRow, hname, Except.map, Row.fault?, hquantity]

end Catalogue

end Stockroom
