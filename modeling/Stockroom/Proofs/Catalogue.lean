import Stockroom.Proofs.Run
import Stockroom.Proofs.Store
import Stockroom.Proofs.Uuid

/-!
# What calls do to a table

Each operation of the catalogue either leaves the table as it is or makes one write, and says which.
A table that began empty holds well-formed rows only: every row is that of a product, and no two
rows have one id. What a call gives to its caller is what the table then holds.
-/

namespace Stockroom

open Number Text

theorem exists_of_mem_mapM {α β ε : Type} {f : α → Except ε β} {l : List α} {bs : List β}
    (h : l.mapM f = .ok bs) {b : β} (hb : b ∈ bs) : ∃ a ∈ l, f a = .ok b := by
  induction l generalizing bs with
  | nil =>
    cases h
    exact absurd hb List.not_mem_nil
  | cons a l ih =>
    rw [List.mapM_cons] at h
    cases ha : f a with
    | error e => simp [ha, bind, Except.bind] at h
    | ok b' =>
      cases hl : l.mapM f with
      | error e => simp [ha, hl, bind, Except.bind] at h
      | ok bs' =>
        simp only [ha, hl, bind, Except.bind, pure, Except.pure, Except.ok.injEq] at h
        rw [← h, List.mem_cons] at hb
        rcases hb with rfl | hb
        · exact ⟨a, List.mem_cons_self, ha⟩
        · obtain ⟨x, hx, hfx⟩ := ih hl hb
          exact ⟨x, List.mem_cons_of_mem a hx, hfx⟩

/-! ## Rows of products -/

def StoredProduct.row (p : StoredProduct) : Row :=
  ⟨p.id.text, p.name, p.cost, p.quantity, p.userId.text, p.created, p.updated⟩

@[simp] theorem StoredProduct.row_id (p : StoredProduct) : p.row.id = p.id.text := rfl

theorem StoredProduct.row_injective {p q : StoredProduct} (h : p.row = q.row) : p = q := by
  cases p
  cases q
  simp only [StoredProduct.row, Row.mk.injEq] at h
  simp only [StoredProduct.mk.injEq]
  exact ⟨Uuid.text_injective h.1, h.2.1, h.2.2.1, h.2.2.2.1, Uuid.text_injective h.2.2.2.2.1,
    h.2.2.2.2.2⟩

theorem StoredProduct.row_mem_map {p : StoredProduct} {l : List StoredProduct} :
    p.row ∈ l.map StoredProduct.row ↔ p ∈ l :=
  List.mem_map_of_injective fun _ _ => StoredProduct.row_injective

theorem Row.product_row (p : StoredProduct) : p.row.product = .ok p := by
  simp [Row.product, Row.product?, StoredProduct.row, Uuid.ofText?_text]

/-- A row as its columns keep it. Its identifiers are canonical text, its cost is a number with one
zero, and its quantity has 64 bits. -/
structure Row.WellFormed (r : Row) : Prop where
  id : ∃ u : Uuid, r.id = u.text
  userId : ∃ u : Uuid, r.userId = u.text
  cost_isNan : r.cost.isNan = false
  cost_stored : r.cost.stored = r.cost
  quantity : fitsInt64 r.quantity = true

theorem Row.WellFormed.exists_product {r : Row} (h : r.WellFormed) :
    ∃ p : StoredProduct, r = p.row := by
  obtain ⟨u, hu⟩ := h.id
  obtain ⟨v, hv⟩ := h.userId
  refine ⟨⟨u, r.name, r.cost, r.quantity, v, r.created, r.updated⟩, ?_⟩
  rw [StoredProduct.row, ← hu, ← hv]

theorem Row.WellFormed.product_eq_ok_iff {r : Row} (h : r.WellFormed) {p : StoredProduct} :
    r.product = .ok p ↔ r = p.row := by
  obtain ⟨q, rfl⟩ := h.exists_product
  rw [Row.product_row]
  constructor
  · intro hqp
    rw [Except.ok.inj hqp]
  · intro hqp
    rw [← Row.product_row q, hqp, Row.product_row p]

structure Store.WellFormed (s : Store) : Prop where
  keyed : s.Keyed
  rows : ∀ r ∈ s.rows, r.WellFormed

theorem Store.wellFormed_empty : Store.WellFormed {} :=
  ⟨List.nodup_nil, fun _ hr => absurd hr List.not_mem_nil⟩

namespace Catalogue

variable {src : Sources} {s t : Store} {n k : Nat}

/-! ## Rows to be written -/

theorem newRow_eq_ok_iff {id : Uuid} {now : Timestamp} {p : NewProduct} {row : Row} :
    newRow id now p = .ok row ↔ ∃ name, storedText p.name = .ok name ∧
      row = ⟨id.text, name, p.cost, p.quantity, p.userId.text, now, now⟩ := by
  unfold newRow
  cases storedText p.name <;> simp [Except.map, @eq_comm _ row]

theorem changedRow_eq_ok_iff {old row : Row} {p : NewProduct} {now : Timestamp} :
    changedRow old p now = .ok row ↔ ∃ name, storedText p.name = .ok name ∧
      row = { old with name := name, cost := p.cost, quantity := p.quantity, updated := now } := by
  unfold changedRow
  cases storedText p.name <;> simp [Except.map, @eq_comm _ row]

theorem changedRow_id {old row : Row} {p : NewProduct} {now : Timestamp}
    (h : changedRow old p now = .ok row) : row.id = old.id := by
  obtain ⟨name, -, rfl⟩ := changedRow_eq_ok_iff.1 h
  rfl

theorem wellFormed_stored {row : Row} (hid : ∃ u : Uuid, row.id = u.text)
    (huser : ∃ u : Uuid, row.userId = u.text) (hfault : row.fault? = none) :
    row.stored.WellFormed := by
  obtain ⟨hquantity, hnan⟩ := Row.fault?_eq_none_iff.1 hfault
  exact ⟨hid, huser, by rw [Row.stored_cost, Real64.isNan_stored, hnan],
    Real64.stored_stored row.cost, hquantity⟩

theorem wellFormed_of_newRow {id : Uuid} {now : Timestamp} {p : NewProduct} {row : Row}
    (h : newRow id now p = .ok row) (hfault : row.fault? = none) : row.stored.WellFormed := by
  obtain ⟨name, -, rfl⟩ := newRow_eq_ok_iff.1 h
  exact wellFormed_stored ⟨_, rfl⟩ ⟨_, rfl⟩ hfault

theorem wellFormed_of_changedRow {old row : Row} {p : NewProduct} {now : Timestamp}
    (h : changedRow old p now = .ok row) (hold : old.WellFormed) (hfault : row.fault? = none) :
    row.stored.WellFormed := by
  obtain ⟨name, -, rfl⟩ := changedRow_eq_ok_iff.1 h
  exact wellFormed_stored hold.id hold.userId hfault

/-! ## One operation -/

/-- A creation inserts a row under the next id, or fails and leaves the table. -/
theorem create_cases (src : Sources) (p : NewProduct) (s : Store) (n k : Nat) :
    (∃ row t, newRow (src.ids n) (src.clock k) p = .ok row ∧ s.insert row = .ok t ∧
      create src p ⟨.ready s, n, k⟩ =
        { result := row.stored.product, state := ⟨.ready t, n + 1, k + 1⟩,
          logs := [createdLine row.id] }) ∨
    (∃ fault, newRow (src.ids n) (src.clock k) p >>= s.insert = .error fault ∧
      create src p ⟨.ready s, n, k⟩ =
        { result := .error (.store fault), state := ⟨.ready s, n + 1, k + 1⟩ }) := by
  cases hrow : newRow (src.ids n) (src.clock k) p with
  | error fault =>
    exact Or.inr ⟨fault, rfl, by simp [create, Table.store?, hrow, bind, Except.bind]⟩
  | ok row =>
    cases hins : s.insert row with
    | error fault =>
      refine Or.inr ⟨fault, hins, ?_⟩
      simp [create, Table.store?, hrow, hins, bind, Except.bind]
    | ok t =>
      refine Or.inl ⟨row, t, rfl, hins, ?_⟩
      simp [create, Table.store?, hrow, hins, bind, Except.bind, pure, Except.pure]

/-- An update replaces the row under the id of the product that is held, or fails and leaves the
table. -/
theorem update_cases (src : Sources) (held : Product) (change : Patch) (s : Store) (n k : Nat) :
    (s.find? held.id.text = none ∧
      update src held change ⟨.ready s, n, k⟩ =
        { result := .error (.notFound held.id), state := ⟨.ready s, n, k + 1⟩ }) ∨
    (∃ old row t, s.find? held.id.text = some old ∧
      changedRow old (held.data.patch change) (src.clock k) = .ok row ∧ s.replace row = .ok t ∧
      update src held change ⟨.ready s, n, k⟩ =
        { result := row.stored.product, state := ⟨.ready t, n, k + 1⟩,
          logs := [updatedLine row.id] }) ∨
    (∃ old fault, s.find? held.id.text = some old ∧
      changedRow old (held.data.patch change) (src.clock k) >>= s.replace = .error fault ∧
      update src held change ⟨.ready s, n, k⟩ =
        { result := .error (.store fault), state := ⟨.ready s, n, k + 1⟩ }) := by
  cases hold : s.find? held.id.text with
  | none => exact Or.inl ⟨rfl, by simp [update, Table.store?, hold]⟩
  | some old =>
    refine Or.inr ?_
    cases hrow : changedRow old (held.data.patch change) (src.clock k) with
    | error fault =>
      refine Or.inr ⟨old, fault, rfl, by simp [hrow, bind, Except.bind], ?_⟩
      simp [update, Table.store?, hold, hrow, bind, Except.bind]
    | ok row =>
      cases hrep : s.replace row with
      | error fault =>
        refine Or.inr ⟨old, fault, rfl, by simp [hrow, hrep, bind, Except.bind], ?_⟩
        simp [update, Table.store?, hold, hrow, hrep, bind, Except.bind]
      | ok t =>
        refine Or.inl ⟨old, row, t, rfl, hrow, hrep, ?_⟩
        simp [update, Table.store?, hold, hrow, hrep, bind, Except.bind, pure, Except.pure]

theorem delete_cases (held : Product) (s : Store) (n k : Nat) :
    (s.contains held.id.text = true ∧
      delete held ⟨.ready s, n, k⟩ =
        { result := .ok (), state := ⟨.ready (s.erase held.id.text), n, k⟩,
          logs := [deletedLine held.id.text] }) ∨
    (s.contains held.id.text = false ∧
      delete held ⟨.ready s, n, k⟩ = { result := .ok (), state := ⟨.ready s, n, k⟩ }) := by
  cases h : s.contains held.id.text <;> simp [delete, Table.store?, h]

theorem create_rows (src : Sources) (p : NewProduct) (s : Store) (n k : Nat) :
    ∃ t, (create src p ⟨.ready s, n, k⟩).state = ⟨.ready t, n + 1, k + 1⟩ ∧
      (s.Keyed → t.Keyed) ∧ ∀ r ∈ t.rows, r ∈ s.rows ∨ ∃ row,
        newRow (src.ids n) (src.clock k) p = .ok row ∧ row.fault? = none ∧ r = row.stored := by
  rcases create_cases src p s n k with ⟨row, t, hrow, hins, heq⟩ | ⟨fault, -, heq⟩
  · refine ⟨t, by rw [heq], fun hs => hs.insert hins, fun r hr => ?_⟩
    rcases (Store.mem_insert hins).1 hr with hr | rfl
    · exact Or.inl hr
    · exact Or.inr ⟨row, hrow, (Store.insert_eq_ok_iff.1 hins).1, rfl⟩
  · exact ⟨s, by rw [heq], fun hs => hs, fun r hr => Or.inl hr⟩

theorem update_rows (src : Sources) (held : Product) (change : Patch) (s : Store) (n k : Nat) :
    ∃ t, (update src held change ⟨.ready s, n, k⟩).state = ⟨.ready t, n, k + 1⟩ ∧
      (s.Keyed → t.Keyed) ∧ ∀ r ∈ t.rows, r ∈ s.rows ∨ ∃ old ∈ s.rows, ∃ row,
        changedRow old (held.data.patch change) (src.clock k) = .ok row ∧ row.fault? = none ∧
          r = row.stored := by
  rcases update_cases src held change s n k with
    ⟨-, heq⟩ | ⟨old, row, t, hold, hrow, hrep, heq⟩ | ⟨old, fault, -, -, heq⟩
  · exact ⟨s, by rw [heq], fun hs => hs, fun r hr => Or.inl hr⟩
  · refine ⟨t, by rw [heq], fun hs => hs.replace hrep, fun r hr => ?_⟩
    rcases Store.mem_replace hrep hr with rfl | ⟨hr, -⟩
    · exact Or.inr ⟨old, Store.mem_of_find? hold, row, hrow,
        (Store.replace_eq_ok_iff.1 hrep).1, rfl⟩
    · exact Or.inl hr
  · exact ⟨s, by rw [heq], fun hs => hs, fun r hr => Or.inl hr⟩

theorem delete_rows (held : Product) (s : Store) (n k : Nat) :
    ∃ t, (delete held ⟨.ready s, n, k⟩).state = ⟨.ready t, n, k⟩ ∧
      (s.Keyed → t.Keyed) ∧ ∀ r ∈ t.rows, r ∈ s.rows := by
  rcases delete_cases held s n k with ⟨-, heq⟩ | ⟨-, heq⟩
  · exact ⟨s.erase held.id.text, by rw [heq], fun hs => hs.erase _,
      fun r hr => (Store.mem_erase.1 hr).1⟩
  · exact ⟨s, by rw [heq], fun hs => hs, fun r hr => hr⟩

@[simp] theorem query_state (f : Filter) (order : OrderBy) (page rows : Int) (c : Catalogue) :
    (query f order page rows c).state = c := by
  unfold query
  split <;> rfl

@[simp] theorem queryById_state (id : Uuid) (c : Catalogue) : (queryById id c).state = c := by
  unfold queryById
  split
  · rfl
  · split <;> rfl

/-! ## Runs from an empty table -/

/-- The table is there, and its rows are well formed. -/
def WellFormed : Catalogue → Prop
  | ⟨.ready s, _, _⟩ => s.WellFormed
  | _ => False

theorem WellFormed.exists_ready {c : Catalogue} (hc : c.WellFormed) :
    ∃ s n k, c = ⟨.ready s, n, k⟩ ∧ s.WellFormed := by
  match c, hc with
  | ⟨.ready s, n, k⟩, hs => exact ⟨s, n, k, rfl, hs⟩

theorem wellFormed_empty : WellFormed {} := Store.wellFormed_empty

theorem wellFormed_create (src : Sources) (p : NewProduct) {c : Catalogue} (hc : c.WellFormed) :
    (create src p c).state.WellFormed := by
  obtain ⟨s, n, k, rfl, hs⟩ := hc.exists_ready
  obtain ⟨t, heq, hkeyed, hrows⟩ := create_rows src p s n k
  rw [heq]
  refine ⟨hkeyed hs.keyed, fun r hr => ?_⟩
  rcases hrows r hr with hr | ⟨row, hrow, hfault, rfl⟩
  · exact hs.rows r hr
  · exact wellFormed_of_newRow hrow hfault

theorem wellFormed_update (src : Sources) (held : Product) (change : Patch) {c : Catalogue}
    (hc : c.WellFormed) : (update src held change c).state.WellFormed := by
  obtain ⟨s, n, k, rfl, hs⟩ := hc.exists_ready
  obtain ⟨t, heq, hkeyed, hrows⟩ := update_rows src held change s n k
  rw [heq]
  refine ⟨hkeyed hs.keyed, fun r hr => ?_⟩
  rcases hrows r hr with hr | ⟨old, hold, row, hrow, hfault, rfl⟩
  · exact hs.rows r hr
  · exact wellFormed_of_changedRow hrow (hs.rows old hold) hfault

theorem wellFormed_delete (held : Product) {c : Catalogue} (hc : c.WellFormed) :
    (delete held c).state.WellFormed := by
  obtain ⟨s, n, k, rfl, hs⟩ := hc.exists_ready
  obtain ⟨t, heq, hkeyed, hrows⟩ := delete_rows held s n k
  rw [heq]
  exact ⟨hkeyed hs.keyed, fun r hr => hs.rows r (hrows r hr)⟩

theorem wellFormed_run (src : Sources) (call : Call) {c : Catalogue} (hc : c.WellFormed) :
    (call.run (core src) c).state.WellFormed := by
  cases call with
  | create p => exact wellFormed_create src p hc
  | update held change => exact wellFormed_update src held change hc
  | delete held => exact wellFormed_delete held hc
  | query f order page rows => exact (query_state f order page rows c).symm ▸ hc
  | count f => exact hc
  | queryById id => exact (queryById_state id c).symm ▸ hc

/-- Whatever products callers hold, a table that began empty stays well formed. -/
theorem wellFormed_after (src : Sources) (calls : List Call) :
    ((core src).after calls {}).WellFormed :=
  (core src).after_induction (fun call _ hc => wellFormed_run src call hc) calls wellFormed_empty

/-! ## The row of an identifier -/

def row? (c : Catalogue) (id : Uuid) : Option Row :=
  match c.table with
  | .ready s => s.find? id.text
  | _ => none

@[simp] theorem row?_ready (s : Store) (n k : Nat) (id : Uuid) :
    row? ⟨.ready s, n, k⟩ id = s.find? id.text := rfl

theorem exists_ready_of_row? {c : Catalogue} {id : Uuid} {r : Row} (h : c.row? id = some r) :
    ∃ s n k, c = ⟨.ready s, n, k⟩ ∧ s.find? id.text = some r := by
  match c, h with
  | ⟨.ready s, n, k⟩, h => exact ⟨s, n, k, rfl, h⟩

theorem row?_create {src : Sources} {p : NewProduct} {c : Catalogue} {id : Uuid} {r : Row}
    (h : c.row? id = some r) : (create src p c).state.row? id = some r := by
  obtain ⟨s, n, k, rfl, hfind⟩ := exists_ready_of_row? h
  rcases create_cases src p s n k with ⟨row, t, -, hins, heq⟩ | ⟨fault, -, heq⟩
  · have hne : id.text ≠ row.id := by
      intro hid
      have hfresh := (Store.insert_eq_ok_iff.1 hins).2.1
      rw [← hid, ← Store.find?_eq_none_iff, hfind] at hfresh
      cases hfresh
    rw [heq, row?_ready, Store.find?_insert hins, if_neg hne, hfind]
  · rw [heq, row?_ready, hfind]

theorem row?_update {src : Sources} {held : Product} {change : Patch} {c : Catalogue} {id : Uuid}
    {r : Row} (hid : held.id ≠ id) (h : c.row? id = some r) :
    (update src held change c).state.row? id = some r := by
  obtain ⟨s, n, k, rfl, hfind⟩ := exists_ready_of_row? h
  rcases update_cases src held change s n k with
    ⟨-, heq⟩ | ⟨old, row, t, hold, hrow, hrep, heq⟩ | ⟨old, fault, -, -, heq⟩
  · rw [heq, row?_ready, hfind]
  · have hne : id.text ≠ row.id := by
      rw [changedRow_id hrow, Store.id_of_find? hold]
      exact fun htext => hid (Uuid.text_injective htext).symm
    rw [heq, row?_ready, Store.find?_replace hrep, if_neg hne, hfind]
  · rw [heq, row?_ready, hfind]

theorem row?_delete {held : Product} {c : Catalogue} {id : Uuid} {r : Row} (hid : held.id ≠ id)
    (h : c.row? id = some r) : (delete held c).state.row? id = some r := by
  obtain ⟨s, n, k, rfl, hfind⟩ := exists_ready_of_row? h
  have hne : id.text ≠ held.id.text := fun htext => hid (Uuid.text_injective htext).symm
  rcases delete_cases held s n k with ⟨-, heq⟩ | ⟨-, heq⟩
  · rw [heq, row?_ready, Store.find?_erase, if_neg hne, hfind]
  · rw [heq, row?_ready, hfind]

theorem row?_run {src : Sources} {call : Call} {c : Catalogue} {id : Uuid} {r : Row}
    (hcall : ¬ call.IsAbout id) (h : c.row? id = some r) :
    (call.run (core src) c).state.row? id = some r := by
  cases call with
  | create p => exact row?_create h
  | update held change => exact row?_update hcall h
  | delete held => exact row?_delete hcall h
  | query f order page rows => exact (query_state f order page rows c).symm ▸ h
  | count f => exact h
  | queryById id' => exact (queryById_state id' c).symm ▸ h

theorem row?_after (src : Sources) {calls : List Call} {c : Catalogue} {id : Uuid} {r : Row}
    (hcalls : ∀ call ∈ calls, ¬ call.IsAbout id) (h : c.row? id = some r) :
    ((core src).after calls c).row? id = some r := by
  induction calls generalizing c with
  | nil => exact h
  | cons call calls ih =>
    rw [List.forall_mem_cons] at hcalls
    exact ih hcalls.2 (row?_run hcalls.1 h)

/-! ## Calls that succeed -/

theorem create_ok {p : NewProduct} {c : Catalogue} {q : StoredProduct}
    (hc : c.WellFormed) (h : (create src p c).result = .ok q) :
    ∃ name, storedText p.name = .ok name ∧
      q = ⟨src.ids c.idsUsed, name, p.cost.stored, p.quantity, p.userId, src.clock c.ticks,
        src.clock c.ticks⟩ ∧
      c.row? q.id = none ∧ (create src p c).state.row? q.id = some q.row := by
  obtain ⟨s, n, k, rfl, hs⟩ := hc.exists_ready
  rcases create_cases src p s n k with ⟨row, t, hnew, hins, heq⟩ | ⟨fault, -, heq⟩
  · obtain ⟨name, hname, hrow⟩ := newRow_eq_ok_iff.1 hnew
    rw [heq] at h ⊢
    obtain ⟨hfault, hfresh, -⟩ := Store.insert_eq_ok_iff.1 hins
    have hwf : row.stored.WellFormed := wellFormed_of_newRow hnew hfault
    have hq : row.stored = q.row := hwf.product_eq_ok_iff.1 h
    have hid : q.id.text = row.id := (congrArg Row.id hq).symm
    refine ⟨name, hname, ?_, ?_, ?_⟩
    · rw [hrow] at hq
      apply StoredProduct.row_injective
      rw [← hq]
      rfl
    · rw [row?_ready, Store.find?_eq_none_iff, hid]
      exact hfresh
    · rw [row?_ready, Store.find?_insert hins, hid, if_pos rfl, hq]
  · rw [heq] at h
    cases h

theorem update_ok {held : Product} {change : Patch} {c : Catalogue} {q : StoredProduct}
    (hc : c.WellFormed) (h : (update src held change c).result = .ok q) :
    ∃ old name, c.row? held.id = some old ∧
      storedText (held.data.patch change).name = .ok name ∧
      q.row = { old with
        name := name, cost := (held.data.patch change).cost.stored,
        quantity := (held.data.patch change).quantity, updated := src.clock c.ticks } ∧
      q.id = held.id ∧ (update src held change c).state.row? held.id = some q.row := by
  obtain ⟨s, n, k, rfl, hs⟩ := hc.exists_ready
  rcases update_cases src held change s n k with
    ⟨-, heq⟩ | ⟨old, row, t, hold, hchanged, hrep, heq⟩ | ⟨old, fault, -, -, heq⟩
  · rw [heq] at h
    cases h
  · obtain ⟨name, hname, hrow⟩ := changedRow_eq_ok_iff.1 hchanged
    rw [heq] at h ⊢
    have hid : old.id = held.id.text := Store.id_of_find? hold
    have hold' : row.id = old.id := by rw [hrow]
    have hfault := (Store.replace_eq_ok_iff.1 hrep).1
    have hwf : row.stored.WellFormed :=
      wellFormed_of_changedRow hchanged (hs.rows old (Store.mem_of_find? hold)) hfault
    have hq : row.stored = q.row := hwf.product_eq_ok_iff.1 h
    refine ⟨old, name, hold, hname, ?_, ?_, ?_⟩
    · rw [← hq, hrow]
      rfl
    · apply Uuid.text_injective
      rw [← hid, ← hold', ← StoredProduct.row_id, ← hq, Row.stored_id]
    · rw [row?_ready, Store.find?_replace hrep, if_pos (hid.symm.trans hold'.symm), hold, hq]
      rfl
  · rw [heq] at h
    cases h

theorem queryById_ok {id : Uuid} {c : Catalogue} {q : StoredProduct} (hc : c.WellFormed)
    (h : (queryById id c).result = .ok q) : q.id = id ∧ c.row? id = some q.row := by
  obtain ⟨s, n, k, rfl, hs⟩ := hc.exists_ready
  cases hfind : s.find? id.text with
  | none => simp [queryById, Table.store?, hfind] at h
  | some row =>
    simp only [queryById, Table.store?, hfind] at h
    have hq := ((hs.rows row (Store.mem_of_find? hfind)).product_eq_ok_iff).1 h
    have hid := Store.id_of_find? hfind
    rw [hq] at hid
    exact ⟨Uuid.text_injective hid, by rw [row?_ready, hfind, hq]⟩

theorem exists_of_row? {id : Uuid} {c : Catalogue} {r : Row} (hc : c.WellFormed)
    (hr : c.row? id = some r) : ∃ q, (queryById id c).result = .ok q := by
  obtain ⟨s, n, k, rfl, hs⟩ := hc.exists_ready
  rw [row?_ready] at hr
  have hwf := hs.rows r (Store.mem_of_find? hr)
  obtain ⟨q, hq⟩ := hwf.exists_product
  refine ⟨q, ?_⟩
  simp only [queryById, Table.store?, hr]
  exact hwf.product_eq_ok_iff.2 hq

theorem create_ok_iff_fault? {p : NewProduct} {row : Row}
    (hrow : newRow (src.ids n) (src.clock k) p = .ok row) (hfresh : s.contains row.id = false) :
    (∃ made, (create src p ⟨.ready s, n, k⟩).result = .ok made) ↔ row.fault? = none := by
  rcases create_cases src p s n k with ⟨row', t, hrow', hins, heq⟩ | ⟨fault, herror, heq⟩
  · obtain rfl : row = row' := Except.ok.inj (hrow.symm.trans hrow')
    have hfault := (Store.insert_eq_ok_iff.1 hins).1
    have hwf := wellFormed_of_newRow hrow hfault
    obtain ⟨made, hmade⟩ := hwf.exists_product
    rw [heq]
    exact ⟨fun _ => hfault, fun _ => ⟨made, hwf.product_eq_ok_iff.2 hmade⟩⟩
  · rw [heq]
    constructor
    · rintro ⟨made, hmade⟩
      cases hmade
    · intro hfault
      have hins := Store.insert_eq_ok_iff.2 ⟨hfault, hfresh, rfl⟩
      rw [hrow] at herror
      cases hins.symm.trans herror

theorem update_ok_iff_fault? {held : Product} {change : Patch} {old row : Row}
    (hold : s.find? held.id.text = some old) (hwf : old.WellFormed)
    (hrow : changedRow old (held.data.patch change) (src.clock k) = .ok row) :
    (∃ changed, (update src held change ⟨.ready s, n, k⟩).result = .ok changed) ↔
      row.fault? = none := by
  rcases update_cases src held change s n k with
    ⟨hnone, heq⟩ | ⟨old', row', t, hold', hrow', hrep, heq⟩ | ⟨old', fault, hold', herror, heq⟩
  · rw [hold] at hnone
    cases hnone
  · obtain rfl : old = old' := Option.some.inj (hold.symm.trans hold')
    obtain rfl : row = row' := Except.ok.inj (hrow.symm.trans hrow')
    have hfault := (Store.replace_eq_ok_iff.1 hrep).1
    have hwf' := wellFormed_of_changedRow hrow hwf hfault
    obtain ⟨changed, hchanged⟩ := hwf'.exists_product
    rw [heq]
    exact ⟨fun _ => hfault, fun _ => ⟨changed, hwf'.product_eq_ok_iff.2 hchanged⟩⟩
  · obtain rfl : old = old' := Option.some.inj (hold.symm.trans hold')
    rw [heq]
    constructor
    · rintro ⟨changed, hchanged⟩
      cases hchanged
    · intro hfault
      have hrep := (Store.replace_eq_ok_iff (s := s)).2 ⟨hfault, rfl⟩
      rw [hrow] at herror
      cases hrep.symm.trans herror

theorem query_ok {f : Filter} {order : OrderBy} {page rows : Int} {c : Catalogue}
    {found : List StoredProduct} (hc : c.WellFormed)
    (h : (query f order page rows c).result = .ok found) {q : StoredProduct} (hq : q ∈ found) :
    c.row? q.id = some q.row := by
  obtain ⟨s, n, k, rfl, hs⟩ := hc.exists_ready
  unfold query at h
  split at h
  · cases h
  · next field _ =>
    cases hpage : s.page? f field order.isReverse ((page - 1) * rows) rows with
    | error fault => simp [Table.store?, hpage, liftFault, bind, Except.bind] at h
    | ok rs =>
      simp only [Table.store?, hpage, liftFault, bind, Except.bind] at h
      obtain ⟨r, hr, hrq⟩ := exists_of_mem_mapM h hq
      have hmem := Store.mem_of_mem_page? hpage hr
      have hrow := ((hs.rows r hmem).product_eq_ok_iff).1 hrq
      rw [row?_ready, ← StoredProduct.row_id, ← hrow]
      exact Store.find?_of_mem hs.keyed hmem

/-- What a call gives to its caller is what the table then holds. -/
theorem row?_of_mem_given {call : Call} {c : Catalogue} (hc : c.WellFormed) {p : StoredProduct}
    (hp : p ∈ call.given (core src) c) :
    (call.run (core src) c).state.row? p.id = some p.row := by
  cases call with
  | create new =>
    obtain ⟨q, hok, hq⟩ := Call.exists_of_mem_given rfl hp
    obtain rfl := List.mem_singleton.1 hq
    obtain ⟨-, -, -, -, hrow⟩ := create_ok hc hok
    exact hrow
  | update held change =>
    obtain ⟨q, hok, hq⟩ := Call.exists_of_mem_given rfl hp
    obtain rfl := List.mem_singleton.1 hq
    obtain ⟨-, -, -, -, -, hid, hrow⟩ := update_ok hc hok
    rw [← hid] at hrow
    exact hrow
  | delete held =>
    obtain ⟨_, _, hq⟩ := Call.exists_of_mem_given rfl hp
    cases hq
  | query f order page rows =>
    obtain ⟨found, hok, hq⟩ := Call.exists_of_mem_given rfl hp
    have hrow := query_ok hc hok hq
    rw [← query_state f order page rows c] at hrow
    exact hrow
  | count f =>
    obtain ⟨_, _, hq⟩ := Call.exists_of_mem_given rfl hp
    cases hq
  | queryById id =>
    obtain ⟨q, hok, hq⟩ := Call.exists_of_mem_given rfl hp
    obtain rfl := List.mem_singleton.1 hq
    obtain ⟨hid, hrow⟩ := queryById_ok hc hok
    rw [← hid, ← queryById_state id c] at hrow
    exact hrow

end Catalogue

end Stockroom
