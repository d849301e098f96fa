import Stockroom.Proofs.Catalogue.Patch

/-!
# What identifies a product

An update never makes a product another one. Its id, its owner and the time of its creation stay as
they are, whatever product the caller holds. Which ids the table has changes in two ways only: a
creation adds the id that it draws, and a removal takes the id away that it is about.
-/

namespace Stockroom

/-- Two rows are of one product: one id, one owner and one time of creation. -/
structure Row.SameProduct (r r' : Row) : Prop where
  id : r'.id = r.id
  userId : r'.userId = r.userId
  created : r'.created = r.created

namespace Row.SameProduct

theorem refl (r : Row) : r.SameProduct r := ⟨rfl, rfl, rfl⟩

theorem trans {a b c : Row} (hab : a.SameProduct b) (hbc : b.SameProduct c) : a.SameProduct c :=
  ⟨hbc.id.trans hab.id, hbc.userId.trans hab.userId, hbc.created.trans hab.created⟩

end Row.SameProduct

/-- Whether a call is to remove the product with an id. -/
def Call.Removes (id : Uuid) : Call → Prop
  | delete held => held.id = id
  | _ => False

namespace Catalogue

variable {src : Sources} {c : Catalogue} {id : Uuid} {r : Row}

/-! ## The row of a product -/

theorem sameProduct_changedRow {old row : Row} {p : NewProduct} {now : Timestamp}
    (h : changedRow old p now = .ok row) : old.SameProduct row.stored := by
  obtain ⟨name, -, rfl⟩ := changedRow_eq_ok_iff.1 h
  exact ⟨rfl, rfl, rfl⟩

theorem sameProduct_update (held : Product) (change : Patch) (h : c.row? id = some r) :
    ∃ r', (update src held change c).state.row? id = some r' ∧ r.SameProduct r' := by
  by_cases hid : held.id = id
  · subst hid
    obtain ⟨s, n, k, rfl, hfind⟩ := exists_ready_of_row? h
    -- The new row is made from the one in the table. Of the held product it has no more than the
    -- data that a patch may change.
    rcases update_cases src held change s n k with
      ⟨-, heq⟩ | ⟨old, row, t, hold, hrow, hrep, heq⟩ | ⟨_, _, -, -, heq⟩
    · exact ⟨r, by rw [heq, row?_ready, hfind], .refl r⟩
    · obtain rfl : old = r := Option.some.inj (hold.symm.trans hfind)
      have hkey : held.id.text = row.id := by rw [changedRow_id hrow, Store.id_of_find? hold]
      refine ⟨row.stored, ?_, sameProduct_changedRow hrow⟩
      rw [heq, row?_ready, Store.find?_replace hrep, if_pos hkey, hold]
      rfl
    · exact ⟨r, by rw [heq, row?_ready, hfind], .refl r⟩
  · exact ⟨r, row?_update hid h, .refl r⟩

theorem sameProduct_run (call : Call) (hcall : ¬ call.Removes id) (h : c.row? id = some r) :
    ∃ r', (call.run (core src) c).state.row? id = some r' ∧ r.SameProduct r' := by
  cases call with
  | create p => exact ⟨r, row?_create h, .refl r⟩
  | update held change => exact sameProduct_update held change h
  | delete held => exact ⟨r, row?_delete hcall h, .refl r⟩
  | query f order page rows => exact ⟨r, (query_state f order page rows c).symm ▸ h, .refl r⟩
  | count f => exact ⟨r, h, .refl r⟩
  | queryById other => exact ⟨r, (queryById_state other c).symm ▸ h, .refl r⟩

theorem sameProduct_after {calls : List Call} (hcalls : ∀ call ∈ calls, ¬ call.Removes id)
    (h : c.row? id = some r) :
    ∃ r', ((core src).after calls c).row? id = some r' ∧ r.SameProduct r' := by
  induction calls generalizing c r with
  | nil => exact ⟨r, h, .refl r⟩
  | cons call calls ih =>
    rw [List.forall_mem_cons] at hcalls
    obtain ⟨mid, hmid, hsame⟩ := sameProduct_run call hcalls.1 h
    obtain ⟨last, hlast, hsame'⟩ := ih hcalls.2 hmid
    exact ⟨last, hlast, hsame.trans hsame'⟩

/-! ## The ids of a table -/

/-- The ids of the rows, in the order of their creation. -/
def ids (c : Catalogue) : List String :=
  match c.table with
  | .ready s => s.rows.map Row.id
  | _ => []

@[simp] theorem ids_ready (s : Store) (n k : Nat) : ids ⟨.ready s, n, k⟩ = s.rows.map Row.id := rfl

theorem mem_ids_iff : id.text ∈ c.ids ↔ ∃ r, c.row? id = some r := by
  match c with
  | ⟨.ready s, n, k⟩ =>
    rw [ids_ready, row?_ready, ← Option.isSome_iff_exists, Store.find?, List.find?_isSome]
    simp
  | ⟨.missing, _, _⟩ => simp [ids, row?]
  | ⟨.unreachable, _, _⟩ => simp [ids, row?]

/-- What a call does to the ids. A creation that succeeds adds the one that it draws, which was not
there, and one that fails adds none. A removal takes its id away, and no other call does
anything. -/
def IdsStep (src : Sources) (c : Catalogue) : Call → Prop
  | .create p =>
    (∃ made, (create src p c).result = .ok made ∧ made.id = src.ids c.idsUsed ∧
      made.id.text ∉ c.ids ∧ (create src p c).state.ids = c.ids ++ [made.id.text]) ∨
    ∃ fault, (create src p c).result = .error fault ∧ (create src p c).state.ids = c.ids
  | .delete held => (delete held c).state.ids = c.ids.filter (· != held.id.text)
  | call => (call.run (core src) c).state.ids = c.ids

theorem ids_update (held : Product) (change : Patch) (hc : c.WellFormed) :
    (update src held change c).state.ids = c.ids := by
  obtain ⟨s, n, k, rfl, -⟩ := hc.exists_ready
  rcases update_cases src held change s n k with
    ⟨-, heq⟩ | ⟨old, row, t, -, -, hrep, heq⟩ | ⟨_, _, -, -, heq⟩
  · rw [heq]
    rfl
  · rw [heq]
    exact Store.ids_replace hrep
  · rw [heq]
    rfl

theorem ids_delete (held : Product) (hc : c.WellFormed) :
    (delete held c).state.ids = c.ids.filter (· != held.id.text) := by
  obtain ⟨s, n, k, rfl, -⟩ := hc.exists_ready
  rcases delete_cases held s n k with ⟨-, heq⟩ | ⟨hgone, heq⟩
  · rw [heq, ids_ready, ids_ready, Store.erase, List.filter_map, Function.comp_def]
  · rw [heq, ids_ready]
    refine (List.filter_eq_self.2 fun id hid => ?_).symm
    obtain ⟨r, hr, rfl⟩ := List.mem_map.1 hid
    simpa using Store.contains_eq_false_iff.1 hgone r hr

theorem idsStep_create (p : NewProduct) (hc : c.WellFormed) : IdsStep src c (.create p) := by
  cases hresult : (create src p c).result with
  | ok made =>
    obtain ⟨name, -, hmade, hnone, -⟩ := create_ok hc hresult
    have hfresh : made.id.text ∉ c.ids := by
      rw [mem_ids_iff, hnone]
      rintro ⟨r, hr⟩
      cases hr
    refine Or.inl ⟨made, hresult, by rw [hmade], hfresh, ?_⟩
    obtain ⟨s, n, k, rfl, -⟩ := hc.exists_ready
    rcases create_cases src p s n k with ⟨row, t, hrow, hins, heq⟩ | ⟨_, -, heq⟩
    · obtain ⟨_, -, rfl⟩ := newRow_eq_ok_iff.1 hrow
      obtain ⟨-, -, rfl⟩ := Store.insert_eq_ok_iff.1 hins
      rw [heq, ids_ready, ids_ready, List.map_append, hmade]
      rfl
    · rw [heq] at hresult
      cases hresult
  | error fault =>
    refine Or.inr ⟨fault, hresult, ?_⟩
    obtain ⟨s, n, k, rfl, -⟩ := hc.exists_ready
    rcases create_cases src p s n k with ⟨row, t, hrow, hins, heq⟩ | ⟨_, -, heq⟩
    · -- A row that is written is that of a product, so the creation has succeeded.
      have hwf := wellFormed_of_newRow hrow (Store.insert_eq_ok_iff.1 hins).1
      obtain ⟨made, hmade⟩ := hwf.exists_product
      rw [heq, hwf.product_eq_ok_iff.2 hmade] at hresult
      cases hresult
    · rw [heq]
      rfl

theorem idsStep_run (src : Sources) (call : Call) (hc : c.WellFormed) : IdsStep src c call := by
  cases call with
  | create p => exact idsStep_create p hc
  | update held change => exact ids_update held change hc
  | delete held => exact ids_delete held hc
  | query f order page rows => exact congrArg ids (query_state f order page rows c)
  | count f => exact rfl
  | queryById other => exact congrArg ids (queryById_state other c)

/-! ## Runs -/

/-- In a run from an empty table every call adds at most the id that it draws and removes at most
the id that it is to remove. A product that is in the table keeps its id, its owner and the time of
its creation until a call removes it, whatever products the callers of updates hold. -/
theorem identity_kept (src : Sources) (before : List Call) :
    let c := (core src).after before {}
    (∀ call, IdsStep src c call) ∧
      ∀ id r, c.row? id = some r → ∀ later : List Call, (∀ call ∈ later, ¬ call.Removes id) →
        ∃ r', ((core src).after later c).row? id = some r' ∧ r.SameProduct r' := by
  intro c
  exact ⟨fun call => idsStep_run src call (wellFormed_after src before),
    fun id r hr later hlater => sameProduct_after hlater hr⟩

/-- What a caller may pass for the apple who says that it is another's pear of a later time. -/
def forgedApple : Product :=
  { apple.toProduct with
    name := "pear", userId := ⟨8⟩, created := ⟨Sources.counting.clock 5, some 3600⟩ }

theorem forged_apple_keeps_owner :
    let c := (core .counting).after [.create apple.data] {}
    let later : List Call := [.update forgedApple recount, .queryById apple.id]
    c.ids = [apple.id.text] ∧ c.row? apple.id = some apple.row ∧
      (∀ call ∈ later, ¬ call.Removes apple.id) ∧
      ∃ r', ((core .counting).after later c).row? apple.id = some r' ∧
        r'.name = "pear" ∧ r'.quantity = 10 ∧ apple.row.SameProduct r' := by
  intro c later
  have hrow : c.row? apple.id = some apple.row := by decide
  have hlater : ∀ call ∈ later, ¬ call.Removes apple.id := by
    rintro call hcall
    rcases List.mem_cons.1 hcall with rfl | hcall
    · exact id
    · exact List.mem_singleton.1 hcall ▸ id
  obtain ⟨r', hr', hsame⟩ := (identity_kept .counting [.create apple.data]).2 _ _ hrow later hlater
  have hname : (((core .counting).after later c).row? apple.id).map
      (fun r => (r.name, r.quantity)) = some ("pear", 10) := by decide
  rw [hr', Option.map_some, Option.some.injEq, Prod.mk.injEq] at hname
  exact ⟨by decide, hrow, hlater, r', hr', hname.1, hname.2, hsame⟩

end Catalogue

end Stockroom
