import Stockroom.Proofs.Catalogue.Patch
import Stockroom.Proofs.Catalogue.Settle

/-!
# Patches that compose

A caller who fetches a product, patches it, and then does the same with another patch leaves what
one patch leaves that sets whatever either of them sets, to the value of the later one. To repeat a
patch changes nothing. The time of the last change is the only trace of the number of updates.
-/

namespace Stockroom

open Number Text

/-! ## Patches that can be stored -/

/-- Each value that a patch sets is one that its column takes. -/
structure Patch.Storable (change : Patch) : Prop where
  name : ∀ text, change.name = some text → IsClean text
  cost : ∀ x, change.cost = some x → x.isNan = false
  quantity : ∀ n, change.quantity = some n → fitsInt64 n = true

namespace Patch

theorem andThen_self (change : Patch) : change.andThen change = change := by
  cases change
  simp [andThen]

theorem Storable.andThen {a b : Patch} (ha : a.Storable) (hb : b.Storable) :
    (a.andThen b).Storable := by
  constructor
  · intro text h
    rcases Option.or_eq_some_iff.1 h with h | ⟨-, h⟩
    · exact hb.name text h
    · exact ha.name text h
  · intro x h
    rcases Option.or_eq_some_iff.1 h with h | ⟨-, h⟩
    · exact hb.cost x h
    · exact ha.cost x h
  · intro n h
    rcases Option.or_eq_some_iff.1 h with h | ⟨-, h⟩
    · exact hb.quantity n h
    · exact ha.quantity n h

end Patch

/-- A patch can be stored exactly if what it makes of a product can, since what it leaves has been
stored. -/
theorem Patch.storable_iff {change : Patch} {p : StoredProduct} (hp : p.row.WellFormed) :
    change.Storable ↔ (∃ name, storedText (p.data.patch change).name = .ok name) ∧
      (p.data.patch change).cost.isNan = false ∧
      fitsInt64 (p.data.patch change).quantity = true := by
  have hclean : IsClean p.data.name := isClean_points p.name
  have hnumber : p.data.cost.isNan = false := hp.cost_isNan
  have hfits : fitsInt64 p.data.quantity = true := hp.quantity
  have hname : (∃ name, storedText (p.data.patch change).name = .ok name) ↔
      ∀ text, change.name = some text → IsClean text := by
    rw [storedText_ok_iff]
    cases h : change.name with
    | none => simp [NewProduct.patch, h, hclean]
    | some text => simp [NewProduct.patch, h]
  have hcost : (p.data.patch change).cost.isNan = false ↔
      ∀ x, change.cost = some x → x.isNan = false := by
    cases h : change.cost with
    | none => simp [NewProduct.patch, h, hnumber]
    | some x => simp [NewProduct.patch, h]
  have hquantity : fitsInt64 (p.data.patch change).quantity = true ↔
      ∀ n, change.quantity = some n → fitsInt64 n = true := by
    cases h : change.quantity with
    | none => simp [NewProduct.patch, h, hfits]
    | some n => simp [NewProduct.patch, h]
  rw [hname, hcost, hquantity]
  exact ⟨fun h => ⟨h.name, h.cost, h.quantity⟩, fun h => ⟨h.1, h.2.1, h.2.2⟩⟩

/-! ## Products that are patched -/

/-- A product with the fields that a patch sets, as columns keep them. -/
structure StoredProduct.Patched (p : StoredProduct) (change : Patch) (q : StoredProduct) :
    Prop where
  name : storedText (p.data.patch change).name = .ok q.name
  row : q.row = { p.row with
    name := q.name, cost := (p.data.patch change).cost.stored
    quantity := (p.data.patch change).quantity, updated := q.updated }

namespace StoredProduct.Patched

variable {p q q' : StoredProduct} {a b : Patch}

theorem eq_asOf (h : p.Patched a q) (h' : p.Patched a q') : q' = q.asOf q'.updated := by
  have hname : q.name = q'.name := Except.ok.inj (h.name.symm.trans h'.name)
  apply StoredProduct.row_injective
  rw [h'.row, ← hname]
  exact (congrArg (fun r : Row => { r with updated := q'.updated }) h.row).symm

theorem cost_eq (h : p.Patched a q) : q.cost = (p.data.patch a).cost.stored :=
  congrArg Row.cost h.row

theorem quantity_eq (h : p.Patched a q) : q.quantity = (p.data.patch a).quantity :=
  congrArg Row.quantity h.row

theorem id_eq (h : p.Patched a q) : q.id = p.id := by
  have hid : q.row.id = p.row.id := by rw [h.row]
  rw [StoredProduct.row_id, StoredProduct.row_id] at hid
  exact Uuid.text_injective hid

theorem andThen (h : p.Patched a q) (h' : q.Patched b q') : p.Patched (a.andThen b) q' := by
  have hname : storedText ((p.data.patch a).patch b).name = storedText (q.data.patch b).name := by
    cases hb : b.name with
    | some text => simp only [NewProduct.patch, hb, Option.getD_some]
    | none =>
      simp only [NewProduct.patch, hb, Option.getD_none]
      exact h.name.trans (storedText_points q.name).symm
  have hcost : ((p.data.patch a).patch b).cost.stored = (q.data.patch b).cost.stored := by
    cases hb : b.cost with
    | some x => simp only [NewProduct.patch, hb, Option.getD_some]
    | none =>
      simp only [NewProduct.patch, hb, Option.getD_none, StoredProduct.data, h.cost_eq]
      exact (Real64.stored_stored _).symm
  have hquantity : ((p.data.patch a).patch b).quantity = (q.data.patch b).quantity := by
    cases hb : b.quantity with
    | some n => simp only [NewProduct.patch, hb, Option.getD_some]
    | none =>
      simp only [NewProduct.patch, hb, Option.getD_none, StoredProduct.data, h.quantity_eq]
  constructor
  · rw [NewProduct.patch_andThen, hname, h'.name]
  · rw [NewProduct.patch_andThen, hcost, hquantity, h'.row, h.row]

end StoredProduct.Patched

namespace Catalogue

variable {src : Sources} {c : Catalogue} {p : StoredProduct} {change : Patch}

/-- To fetch a product and then update it. -/
def amend (src : Sources) (id : Uuid) (change : Patch) (c : Catalogue) :
    Outcome Catalogue StoredProduct :=
  let fetched := queryById id c
  match fetched.result with
  | .error fault => { result := .error fault, state := fetched.state }
  | .ok p => update src p change fetched.state

theorem amend_of_row? (hc : c.WellFormed) (hp : c.row? p.id = some p.row) :
    amend src p.id change c = update src p change c := by
  obtain ⟨q, hq⟩ := exists_of_row? hc hp
  obtain ⟨-, hrow⟩ := queryById_ok hc hq
  obtain rfl : p = q := StoredProduct.row_injective (Option.some.inj (hp.symm.trans hrow))
  simp only [amend, hq, queryById_state]

theorem wellFormed_amend (src : Sources) (id : Uuid) (change : Patch) (hc : c.WellFormed) :
    (amend src id change c).state.WellFormed := by
  simp only [amend, queryById_state]
  split
  · exact hc
  · exact wellFormed_update src _ change hc

theorem exists_amended {s : Store} (hs : s.WellFormed) (hp : s.find? p.id.text = some p.row)
    (hchange : change.Storable) (src : Sources) (n k : Nat) :
    ∃ q, p.Patched change q ∧ q.updated = src.clock k ∧
      (amend src p.id change ⟨.ready s, n, k⟩).result = .ok q ∧
      (amend src p.id change ⟨.ready s, n, k⟩).state =
        ⟨.ready (s.put p.id.text (some q.row)), n, k + 1⟩ := by
  have hwf := hs.rows p.row (Store.mem_of_find? hp)
  obtain ⟨⟨name, hname⟩, hcost, hquantity⟩ := (Patch.storable_iff hwf).1 hchange
  have hid : p.row.id = p.toProduct.id.text := rfl
  obtain ⟨q, -, hrow, hall⟩ := exists_rewritten hwf hid hname hcost hquantity
  obtain ⟨hresult, hstate⟩ := update_put src p change hs.keyed n k
  have hqname : q.name = name := congrArg Row.name (hrow (src.clock k))
  rw [StoredProduct.toProduct_id, hp, hall] at hresult hstate
  have hamend : amend src p.id change ⟨.ready s, n, k⟩ = _ := amend_of_row? hs hp
  rw [hamend]
  refine ⟨q.asOf (src.clock k), ⟨?_, ?_⟩, rfl, hresult, hstate⟩
  · exact hname.trans (congrArg Except.ok hqname.symm)
  · rw [hrow, ← hqname]
    rfl

/-- Two outcomes with one product, from which come equal tables but for the time of the last change
of the product: in the second one, that time. -/
def Redated (id : Uuid) (now : Timestamp) (out later : Outcome Catalogue StoredProduct) : Prop :=
  ∃ p : StoredProduct, p.id = id ∧ out.result = .ok p ∧ later.result = .ok (p.asOf now) ∧
    later.state.table = out.state.table.dated (p.asOf now) ∧
    later.state.row? id = some (p.asOf now).row

/-- Two patches in turn come to what any patch comes to that sets the same, but for the time. -/
theorem redated_amend (hc : c.WellFormed) (hp : c.row? p.id = some p.row) {a b : Patch}
    (ha : a.Storable) (hb : b.Storable) (hchange : change.Storable) (hsame : a.andThen b = change) :
    let first := amend src p.id a c
    Redated p.id (src.clock first.state.ticks) (amend src p.id change c)
      (amend src p.id b first.state) := by
  intro first
  obtain ⟨s, n, k, rfl, hs⟩ := hc.exists_ready
  rw [row?_ready] at hp
  obtain ⟨q₁, hq₁, -, -, hstate₁⟩ := exists_amended hs hp ha src n k
  obtain ⟨q, hq, -, hresult, hstate⟩ := exists_amended hs hp hchange src n k
  have hwf : (s.put p.id.text (some q₁.row)).WellFormed := by
    have h := wellFormed_amend src p.id a hc
    rwa [hstate₁] at h
  have hid₁ : q₁.row.id = p.id.text := by rw [StoredProduct.row_id, hq₁.id_eq]
  have hfind : (s.put p.id.text (some q₁.row)).find? q₁.id.text = some q₁.row := by
    rw [hq₁.id_eq, Store.find?_put_self hid₁, hp, Option.map_some]
  obtain ⟨q₂, hq₂, hnow, hresult₂, hstate₂⟩ := exists_amended hwf hfind hb src n (k + 1)
  rw [hq₁.id_eq] at hresult₂ hstate₂
  -- The second patch is put where the first one was, and leaves nothing of its row.
  rw [Store.put_put hid₁] at hstate₂
  have hlast : q₂ = q.asOf (src.clock (k + 1)) := by
    rw [← hnow]
    exact hq.eq_asOf (hsame ▸ hq₁.andThen hq₂)
  have hid₂ : q₂.row.id = p.id.text := by
    rw [StoredProduct.row_id, hlast, StoredProduct.asOf_id, hq.id_eq]
  change Redated p.id (src.clock (amend src p.id a _).state.ticks) _
    (amend src p.id b (amend src p.id a _).state)
  rw [hstate₁]
  refine ⟨q, hq.id_eq, hresult, ?_, ?_, ?_⟩
  · rw [hresult₂, hlast]
  · rw [hstate₂, hstate, hlast, ← hq.id_eq]
    exact congrArg Table.ready (Store.dated_put s q _).symm
  · rw [hstate₂, row?_ready, Store.find?_put_self hid₂, hp, Option.map_some, hlast]

/-- To fetch a product and patch it, and then to do so again, comes to what one patch comes to with
the values of the second one, and with those of the first one where the second one has none. To
repeat a patch changes nothing. All that differs is the time of the last change, which is that of
the last update. -/
theorem patches_compose (src : Sources) (calls : List Call) {id : Uuid} {r : Row}
    (hr : ((core src).after calls {}).row? id = some r) {a b : Patch} (ha : a.Storable)
    (hb : b.Storable) :
    let c := (core src).after calls {}
    let first := amend src id a c
    Redated id (src.clock first.state.ticks) (amend src id (a.andThen b) c)
        (amend src id b first.state) ∧
      Redated id (src.clock first.state.ticks) first (amend src id a first.state) := by
  intro c first
  have hc : c.WellFormed := wellFormed_after src calls
  obtain ⟨p, hp⟩ := exists_of_row? hc hr
  obtain ⟨rfl, hrow⟩ := queryById_ok hc hp
  exact ⟨redated_amend hc hrow ha hb (ha.andThen hb) rfl,
    redated_amend hc hrow ha ha ha a.andThen_self⟩

/-- What is left of the apple: no name, no price. -/
def blank : Patch := { name := some [], cost := some (.ofInt 0) }

def runOut : Patch := { quantity := some 0 }

theorem apple_used_up :
    let c := (core .counting).after [.create apple.data] {}
    let first := amend .counting apple.id blank c
    let second := amend .counting apple.id runOut first.state
    c.row? apple.id = some apple.row ∧ blank.Storable ∧ runOut.Storable ∧
      Redated apple.id (Sources.counting.clock 2)
        (amend .counting apple.id (blank.andThen runOut) c) second ∧
      Redated apple.id (Sources.counting.clock 2) first
        (amend .counting apple.id blank first.state) ∧
      second.state.row? apple.id = some
        { apple.row with
          name := "", cost := .ofInt 0, quantity := 0, updated := Sources.counting.clock 2 } := by
  intro c first second
  have hrow : c.row? apple.id = some apple.row := by decide
  have hblank : blank.Storable := by
    constructor <;> rintro _ ⟨⟩
    · exact isClean_nil
    · rfl
  have hrunOut : runOut.Storable := by
    constructor <;> rintro _ ⟨⟩
    rfl
  obtain ⟨htwo, htwice⟩ := patches_compose .counting [.create apple.data] hrow hblank hrunOut
  exact ⟨hrow, hblank, hrunOut, htwo, htwice, by decide⟩

end Catalogue

end Stockroom
