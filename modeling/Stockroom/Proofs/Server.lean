import Stockroom.Proofs.Catalogue
import Stockroom.Proofs.Service
import Stockroom.Server

/-!
# Runs of a server

A server that began with an empty table answers requests one after another. Every row of its table
stays sound: each of its fields is one that a payload may set. Under a clock that does not go back
no row was changed before it was created.
-/

namespace Stockroom

open Http Number Service Text

theorem Core.disturbed_none {σ : Type} (core : Core σ) : core.disturbed (fun _ => none) = core :=
  rfl

namespace Server

/-- A server with nothing in its table. -/
def fresh (settings : Settings) : Server := { settings := settings, catalogue := {} }

def after (src : Sources) (requests : List Request) (s : Server) : Server :=
  requests.foldl (fun s r => (s.request src r).state) s

variable {src : Sources} {s : Server}

theorem core_eq (hplan : s.plan = []) : s.core src = Catalogue.core src := by
  rw [core, hplan]
  exact Core.disturbed_none _

theorem request_plan (r : Request) : (s.request src r).state.plan = s.plan :=
  rfl

theorem request_settings (r : Request) : (s.request src r).state.settings = s.settings :=
  rfl

theorem after_plan (requests : List Request) : (s.after src requests).plan = s.plan := by
  induction requests generalizing s with
  | nil => rfl
  | cons r requests ih => exact ih.trans (request_plan r)

theorem after_settings (requests : List Request) :
    (s.after src requests).settings = s.settings := by
  induction requests generalizing s with
  | nil => rfl
  | cons r requests ih => exact ih.trans (request_settings r)

theorem request_response (hplan : s.plan = []) (r : Request) :
    (s.request src r).response =
      (serve (Catalogue.core src) s.settings.listConfig r s.catalogue).response := by
  rw [← core_eq hplan]
  rfl

theorem request_status? (hplan : s.plan = []) (r : Request) :
    (s.request src r).status? =
      (serve (Catalogue.core src) s.settings.listConfig r s.catalogue).status? :=
  congrArg _ (request_response hplan r)

theorem request_catalogue (hplan : s.plan = []) (r : Request) :
    (s.request src r).state.catalogue =
      (serve (Catalogue.core src) s.settings.listConfig r s.catalogue).state := by
  rw [← core_eq hplan]
  rfl

theorem catalogue_after {P : Catalogue → Prop} (hcore : Keeps (Catalogue.core src) P)
    (hplan : s.plan = []) (hs : P s.catalogue) (requests : List Request) :
    P (s.after src requests).catalogue := by
  induction requests generalizing s with
  | nil => exact hs
  | cons r requests ih =>
    refine ih hplan ?_
    rw [request_catalogue hplan]
    exact hcore.serve hs s.settings.listConfig r

end Server

/-! ## Runs of calls -/

namespace Catalogue

/-- A catalogue that a run of calls comes to from an empty table. -/
def Reached (src : Sources) (c : Catalogue) : Prop := ∃ calls, (core src).after calls {} = c

theorem Reached.run {src : Sources} {c : Catalogue} (hc : c.Reached src) (call : Call) :
    (call.run (core src) c).state.Reached src := by
  obtain ⟨calls, rfl⟩ := hc
  exact ⟨calls ++ [call], Core.after_append (core src) calls [call] {}⟩

theorem Reached.wellFormed {src : Sources} {c : Catalogue} (hc : c.Reached src) :
    c.WellFormed := by
  obtain ⟨calls, rfl⟩ := hc
  exact wellFormed_after src calls

theorem keeps_reached (src : Sources) : Keeps (core src) (Reached src) where
  create {p _} _ hc := hc.run (.create p)
  query {f order page rows _} hc := hc.run (.query f order page rows)
  count {f _} hc := hc.run (.count f)
  queryById {id _} hc := hc.run (.queryById id)
  update {id held change _} _ hc _ := (hc.run (.queryById id)).run (.update held change)
  delete {id held _} hc _ := (hc.run (.queryById id)).run (.delete held)

end Catalogue

theorem Server.reached_after (settings : Settings) (src : Sources) (requests : List Request) :
    ((fresh settings).after src requests).catalogue.Reached src :=
  catalogue_after (Catalogue.keeps_reached src) rfl ⟨[], rfl⟩ requests

/-! ## Sound rows -/

/-- A well-formed row whose name, cost and quantity a payload may set. -/
structure Row.Sound (r : Row) : Prop extends r.WellFormed where
  name : r.name ≠ ""
  cost_isNonneg : r.cost.isNonneg = true
  one_le_quantity : 1 ≤ r.quantity

theorem Row.Sound.data {p : StoredProduct} (h : p.row.Sound) : p.data.IsValid :=
  ⟨⟨p.name, h.name, rfl⟩, h.cost_isNonneg, h.one_le_quantity⟩

theorem Row.sound_stored {r : Row} {p : NewProduct} (hp : p.IsValid)
    (hname : storedText p.name = .ok r.name) (hcost : r.cost = p.cost)
    (hquantity : r.quantity = p.quantity) (hr : r.stored.WellFormed) : r.stored.Sound := by
  obtain ⟨s, hs, hp'⟩ := hp.name
  rw [hp', storedText_points, Except.ok.injEq] at hname
  refine ⟨hr, ?_, ?_, ?_⟩
  · rw [stored_name, ← hname]
    exact hs
  · rw [stored_cost, Real64.isNonneg_stored, hcost]
    exact hp.cost
  · rw [stored_quantity, hquantity]
    exact hp.quantity

structure Store.Sound (s : Store) : Prop where
  keyed : s.Keyed
  rows : ∀ r ∈ s.rows, r.Sound

theorem Store.Sound.wellFormed {s : Store} (hs : s.Sound) : s.WellFormed :=
  ⟨hs.keyed, fun r hr => (hs.rows r hr).toWellFormed⟩

namespace Catalogue

variable {src : Sources} {c : Catalogue}

def Sound : Catalogue → Prop
  | ⟨.ready s, _, _⟩ => s.Sound
  | _ => False

theorem Sound.exists_ready (hc : c.Sound) : ∃ s n k, c = ⟨.ready s, n, k⟩ ∧ s.Sound := by
  match c, hc with
  | ⟨.ready s, n, k⟩, hs => exact ⟨s, n, k, rfl, hs⟩

theorem Sound.wellFormed (hc : c.Sound) : c.WellFormed := by
  obtain ⟨s, n, k, rfl, hs⟩ := hc.exists_ready
  exact Store.Sound.wellFormed hs

theorem sound_empty : Sound {} := ⟨List.nodup_nil, fun _ hr => absurd hr List.not_mem_nil⟩

theorem sound_create {p : NewProduct} (hp : p.IsValid) (hc : c.Sound) :
    (create src p c).state.Sound := by
  obtain ⟨s, n, k, rfl, hs⟩ := hc.exists_ready
  obtain ⟨t, heq, hkeyed, hrows⟩ := create_rows src p s n k
  rw [heq]
  refine ⟨hkeyed hs.keyed, fun r hr => ?_⟩
  rcases hrows r hr with hr | ⟨row, hrow, hfault, rfl⟩
  · exact hs.rows r hr
  · have hwf := wellFormed_of_newRow hrow hfault
    obtain ⟨name, hname, rfl⟩ := newRow_eq_ok_iff.1 hrow
    exact Row.sound_stored hp hname rfl rfl hwf

/-- A product that was looked up fills a patch with sound values. -/
theorem isValid_patch {held : StoredProduct} {change : Patch} {id : Uuid}
    (hchange : change.IsValid) (hc : c.Sound) (hheld : (queryById id c).result = .ok held) :
    (held.data.patch change).IsValid := by
  obtain ⟨-, hrow⟩ := queryById_ok hc.wellFormed hheld
  obtain ⟨s, n, k, rfl, hs⟩ := hc.exists_ready
  exact (hs.rows _ (Store.mem_of_find? hrow)).data.patch hchange

theorem sound_update {held : Product} {change : Patch} (hp : (held.data.patch change).IsValid)
    (hc : c.Sound) : (update src held change c).state.Sound := by
  obtain ⟨s, n, k, rfl, hs⟩ := hc.exists_ready
  obtain ⟨t, heq, hkeyed, hrows⟩ := update_rows src held change s n k
  rw [heq]
  refine ⟨hkeyed hs.keyed, fun r hr => ?_⟩
  rcases hrows r hr with hr | ⟨old, hold, row, hrow, hfault, rfl⟩
  · exact hs.rows r hr
  · have hwf := wellFormed_of_changedRow hrow (hs.rows old hold).toWellFormed hfault
    obtain ⟨name, hname, rfl⟩ := changedRow_eq_ok_iff.1 hrow
    exact Row.sound_stored hp hname rfl rfl hwf

theorem sound_delete (held : Product) (hc : c.Sound) : (delete held c).state.Sound := by
  obtain ⟨s, n, k, rfl, hs⟩ := hc.exists_ready
  obtain ⟨t, heq, hkeyed, hrows⟩ := delete_rows held s n k
  rw [heq]
  exact ⟨hkeyed hs.keyed, fun r hr => hs.rows r (hrows r hr)⟩

theorem core_queryById_state (id : Uuid) (c : Catalogue) :
    ((core src).queryById id c).state = c := queryById_state id c

theorem keeps_sound (src : Sources) : Keeps (core src) Sound where
  create hp hc := sound_create hp hc
  query hc := by rwa [core, query_state]
  count hc := hc
  queryById hc := by rwa [core_queryById_state]
  update hchange hc hheld := by
    rw [core_queryById_state]
    exact sound_update (isValid_patch hchange hc hheld) hc
  delete {id held c} hc _ := by
    rw [core_queryById_state]
    exact sound_delete held hc

end Catalogue

/-! ## Dates -/

/-- No row was created after it was changed, nor after a time that is still to come. -/
structure Store.Dated (src : Sources) (ticks : Nat) (s : Store) : Prop where
  rows : ∀ r ∈ s.rows, r.created.le r.updated = true
  created : ∀ r ∈ s.rows, ∀ k, ticks ≤ k → r.created.le (src.clock k) = true

namespace Catalogue

variable {src : Sources} {c : Catalogue}

def Dated (src : Sources) : Catalogue → Prop
  | ⟨.ready s, _, k⟩ => s.Dated src k
  | _ => False

theorem Dated.exists_ready (hc : c.Dated src) :
    ∃ s n k, c = ⟨.ready s, n, k⟩ ∧ s.Dated src k := by
  match c, hc with
  | ⟨.ready s, n, k⟩, hs => exact ⟨s, n, k, rfl, hs⟩

theorem dated_empty : Dated src {} :=
  ⟨fun _ hr => absurd hr List.not_mem_nil, fun _ hr => absurd hr List.not_mem_nil⟩

theorem dated_create (hclock : src.Monotone) (p : NewProduct) (hc : c.Dated src) :
    (create src p c).state.Dated src := by
  obtain ⟨s, n, k, rfl, hs⟩ := hc.exists_ready
  obtain ⟨t, heq, -, hrows⟩ := create_rows src p s n k
  rw [heq]
  refine ⟨fun r hr => ?_, fun r hr j hj => ?_⟩
  · rcases hrows r hr with hr | ⟨row, hrow, -, rfl⟩
    · exact hs.rows r hr
    · obtain ⟨name, -, rfl⟩ := newRow_eq_ok_iff.1 hrow
      exact hclock k k (Nat.le_refl k)
  · rcases hrows r hr with hr | ⟨row, hrow, -, rfl⟩
    · exact hs.created r hr j (Nat.le_of_succ_le hj)
    · obtain ⟨name, -, rfl⟩ := newRow_eq_ok_iff.1 hrow
      exact hclock k j (Nat.le_of_succ_le hj)

theorem dated_update (held : Product) (change : Patch) (hc : c.Dated src) :
    (update src held change c).state.Dated src := by
  obtain ⟨s, n, k, rfl, hs⟩ := hc.exists_ready
  obtain ⟨t, heq, -, hrows⟩ := update_rows src held change s n k
  rw [heq]
  refine ⟨fun r hr => ?_, fun r hr j hj => ?_⟩
  · rcases hrows r hr with hr | ⟨old, hold, row, hrow, -, rfl⟩
    · exact hs.rows r hr
    · obtain ⟨name, -, rfl⟩ := changedRow_eq_ok_iff.1 hrow
      exact hs.created old hold k (Nat.le_refl k)
  · rcases hrows r hr with hr | ⟨old, hold, row, hrow, -, rfl⟩
    · exact hs.created r hr j (Nat.le_of_succ_le hj)
    · obtain ⟨name, -, rfl⟩ := changedRow_eq_ok_iff.1 hrow
      exact hs.created old hold j (Nat.le_of_succ_le hj)

theorem dated_delete (held : Product) (hc : c.Dated src) :
    (delete held c).state.Dated src := by
  obtain ⟨s, n, k, rfl, hs⟩ := hc.exists_ready
  obtain ⟨t, heq, -, hrows⟩ := delete_rows held s n k
  rw [heq]
  exact ⟨fun r hr => hs.rows r (hrows r hr), fun r hr => hs.created r (hrows r hr)⟩

theorem keeps_dated (hclock : src.Monotone) : Keeps (core src) (Dated src) where
  create {p _} _ hc := dated_create hclock p hc
  query hc := by rwa [core, query_state]
  count hc := hc
  queryById hc := by rwa [core_queryById_state]
  update {_ held change _} _ hc _ := by
    rw [core_queryById_state]
    exact dated_update held change hc
  delete {_ held _} hc _ := by
    rw [core_queryById_state]
    exact dated_delete held hc

end Catalogue

/-! ## What every run keeps -/

namespace Server

theorem sound_after (settings : Settings) (src : Sources) (requests : List Request) :
    ((fresh settings).after src requests).catalogue.Sound :=
  catalogue_after (Catalogue.keeps_sound src) rfl Catalogue.sound_empty requests

theorem dated_after (settings : Settings) {src : Sources} (hclock : src.Monotone)
    (requests : List Request) :
    ((fresh settings).after src requests).catalogue.Dated src :=
  catalogue_after (Catalogue.keeps_dated hclock) rfl Catalogue.dated_empty requests

/-- After any requests the table has one row per id. Every row is sound, and was not changed before
it was created. -/
theorem rows_after (settings : Settings) {src : Sources} (hclock : src.Monotone)
    (requests : List Request) :
    ∃ store, ((fresh settings).after src requests).catalogue.table = .ready store ∧
      store.Keyed ∧ ∀ r ∈ store.rows, r.Sound ∧ r.created.le r.updated = true := by
  have hsound := sound_after settings src requests
  have hdated := dated_after settings hclock requests
  obtain ⟨store, n, k, hc, hs⟩ := hsound.exists_ready
  rw [hc] at hdated ⊢
  exact ⟨store, rfl, hs.keyed, fun r hr => ⟨hs.rows r hr, hdated.rows r hr⟩⟩

/-- A client that posts some apples. -/
def postOfApples (quantity : Int) : Request where
  server := ⟨"testserver", 80⟩
  method := "POST"
  target := ⟨"/products/", ""⟩
  headers := [("host", "testserver"), ("content-type", "application/json")]
  body := utf8 ("\x7b\"name\": \"apple\", \"cost\": 1, \"quantity\": " ++ toString quantity ++
    ", \"user_id\": \"00000000-0000-0000-0000-000000000007\"\x7d")

theorem row_of_apples :
    Sources.counting.Monotone ∧
      ∃ store, ((fresh {}).after .counting [postOfApples 3, postOfApples 0]).catalogue.table =
          .ready store ∧
        store.rows.map (fun r => (r.name, r.quantity)) = [("apple", 3)] ∧
        store.Keyed ∧ ∀ r ∈ store.rows, r.Sound ∧ r.created.le r.updated = true := by
  obtain ⟨store, htable, hkeyed, hrows⟩ :=
    rows_after {} Sources.monotone_counting [postOfApples 3, postOfApples 0]
  have happles : (((fresh {}).after .counting
      [postOfApples 3, postOfApples 0]).catalogue.table.store?.toOption.map fun s =>
        s.rows.map fun r => (r.name, r.quantity)) = some [("apple", 3)] := by decide +kernel
  rw [htable] at happles
  exact ⟨Sources.monotone_counting, store, htable, Option.some.inj happles, hkeyed, hrows⟩

end Server

end Stockroom
