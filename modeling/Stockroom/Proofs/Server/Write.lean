import Stockroom.Proofs.Listing
import Stockroom.Proofs.Server

/-!
# Valid payloads and the table

A valid payload is written exactly if its quantity has 64 bits. Payloads have no upper bound on the
quantity, so a client whose quantity is too large is told of an internal failure.
-/

namespace Stockroom

open Http Number Service Text

theorem fitsInt64_iff_of_one_le {n : Int} (hn : 1 ≤ n) : fitsInt64 n = true ↔ n ≤ maxInt64 := by
  rw [fitsInt64, decide_eq_true_eq, maxInt64]
  omega

/-- Of a row with valid data only the quantity can keep it from being written. -/
theorem Row.fault?_eq_none_iff_of_valid {r : Row} {p : NewProduct} (hp : p.IsValid)
    (hcost : r.cost = p.cost) (hquantity : r.quantity = p.quantity) :
    r.fault? = none ↔ p.quantity ≤ maxInt64 := by
  rw [fault?_eq_none_iff, hcost, hquantity, Real64.isNan_of_isNonneg hp.cost,
    fitsInt64_iff_of_one_le hp.quantity]
  exact and_iff_left rfl

theorem NewProduct.IsValid.exists_storedText {p : NewProduct} (hp : p.IsValid) :
    ∃ name, storedText p.name = .ok name := by
  obtain ⟨s, -, hs⟩ := hp.name
  exact ⟨s, hs ▸ storedText_points s⟩

namespace Catalogue

variable {src : Sources} {c : Catalogue}

theorem create_succeeds_iff {p : NewProduct} (hp : p.IsValid) (hc : c.Sound)
    (hfresh : c.row? (src.ids c.idsUsed) = none) :
    (∃ made, (create src p c).result = .ok made) ↔ p.quantity ≤ maxInt64 := by
  obtain ⟨s, n, k, rfl, hs⟩ := hc.exists_ready
  obtain ⟨name, hname⟩ := hp.exists_storedText
  obtain ⟨row, hrow⟩ : ∃ row, newRow (src.ids n) (src.clock k) p = .ok row :=
    ⟨_, newRow_eq_ok_iff.2 ⟨name, hname, rfl⟩⟩
  obtain ⟨_, -, hfields⟩ := newRow_eq_ok_iff.1 hrow
  have hid : row.id = (src.ids n).text := by rw [hfields]
  rw [row?_ready, Store.find?_eq_none_iff, ← hid] at hfresh
  rw [create_ok_iff_fault? hrow hfresh]
  exact Row.fault?_eq_none_iff_of_valid hp (by rw [hfields]) (by rw [hfields])

theorem update_succeeds_iff {held : StoredProduct} {change : Patch} {id : Uuid}
    (hchange : change.IsValid) (hc : c.Sound) (hheld : (queryById id c).result = .ok held) :
    (∃ changed, (update src held change c).result = .ok changed) ↔
      ∀ n ∈ change.quantity, n ≤ maxInt64 := by
  have hp := isValid_patch hchange hc hheld
  obtain ⟨hid, hfind⟩ := queryById_ok hc.wellFormed hheld
  obtain ⟨s, n, k, rfl, hs⟩ := hc.exists_ready
  rw [row?_ready, ← hid, ← StoredProduct.toProduct_id] at hfind
  have hsound := hs.rows _ (Store.mem_of_find? hfind)
  obtain ⟨name, hname⟩ := hp.exists_storedText
  obtain ⟨row, hrow⟩ :
      ∃ row, changedRow held.row (held.data.patch change) (src.clock k) = .ok row :=
    ⟨_, changedRow_eq_ok_iff.2 ⟨name, hname, rfl⟩⟩
  obtain ⟨_, -, hfields⟩ := changedRow_eq_ok_iff.1 hrow
  have hold : held.quantity ≤ maxInt64 :=
    (fitsInt64_iff_of_one_le hsound.one_le_quantity).1 hsound.quantity
  rw [update_ok_iff_fault? hfind hsound.toWellFormed hrow,
    Row.fault?_eq_none_iff_of_valid hp (by rw [hfields]) (by rw [hfields])]
  cases hq : change.quantity with
  | none => simp [NewProduct.patch, hq, StoredProduct.data, hold]
  | some m => simp [NewProduct.patch, hq]

end Catalogue

namespace Server

/-- On a server that began empty, a valid payload for a new product under a fresh id, or for one
that is there, is answered as written exactly if the quantity that it sets has 64 bits. -/
theorem valid_payload_written_iff (settings : Settings) (src : Sources) (requests : List Request) :
    let s := (fresh settings).after src requests
    (∀ r p, r.Posts p → s.catalogue.row? (src.ids s.catalogue.idsUsed) = none →
      ((s.request src r).status? = some 201 ↔ p.quantity ≤ maxInt64)) ∧
    (∀ r id change, r.Puts id change → (s.catalogue.row? id).isSome = true →
      ((s.request src r).status? = some 200 ↔ ∀ n ∈ change.quantity, n ≤ maxInt64)) := by
  intro s
  have hsound : s.catalogue.Sound := sound_after settings src requests
  have hplan : s.plan = [] := after_plan requests
  have hstatus (r : Request) : (s.request src r).status? =
      (serve (Catalogue.core src) s.settings.listConfig r s.catalogue).status? := by
    rw [← core_eq hplan]
    rfl
  constructor
  · intro r p hr hfresh
    obtain ⟨j, hj⟩ := exists_of_readBody hr.body
    rw [hstatus, status?_post_iff hr]
    exact Catalogue.create_succeeds_iff (Payload.isValid_of_newProduct hj) hsound hfresh
  · intro r id change hr hthere
    obtain ⟨j, hj⟩ := exists_of_readBody hr.body
    obtain ⟨row, hrow⟩ := Option.isSome_iff_exists.1 hthere
    obtain ⟨held, hheld⟩ := Catalogue.exists_of_row? hsound.wellFormed hrow
    rw [hstatus, status?_put_iff hr hheld, Catalogue.core_queryById_state]
    exact Catalogue.update_succeeds_iff (Payload.isValid_of_patch hj) hsound hheld

/-- A client that puts another number of the first product. -/
def putOfApples (quantity : Int) : Request where
  server := ⟨"testserver", 80⟩
  method := "PUT"
  target := ⟨"/products/00000000-0000-4000-8000-000000000000", ""⟩
  headers := [("host", "testserver"), ("content-type", "application/json")]
  body := utf8 ("\x7b\"quantity\": " ++ toString quantity ++ "\x7d")

/-- What a client posts who posts some apples. -/
def someApples (quantity : Int) : NewProduct := ⟨"apple", .ofInt 1, quantity, ⟨7⟩⟩

theorem few_apples_written :
    (postOfApples 3).Posts (someApples 3) ∧
      (putOfApples 5).Puts (Sources.counting.ids 0) { quantity := some 5 } ∧
      ((fresh {}).request .counting (postOfApples 3)).status? = some 201 ∧
      (((fresh {}).after .counting [postOfApples 3]).request .counting
        (putOfApples 5)).status? = some 200 := by
  have hposts : (postOfApples 3).Posts (someApples 3) :=
    ⟨by unfold Request.Reaches; decide +kernel, eq_ok_of_toOption (by decide +kernel)⟩
  have hputs : (putOfApples 5).Puts (Sources.counting.ids 0) { quantity := some 5 } :=
    ⟨by unfold Request.Reaches; decide +kernel, eq_ok_of_toOption (by decide +kernel),
      eq_ok_of_toOption (by decide +kernel)⟩
  have hpost := (valid_payload_written_iff {} .counting []).1 _ _ hposts (by decide +kernel)
  have hput := (valid_payload_written_iff {} .counting [postOfApples 3]).2 _ _ _ hputs
    (by decide +kernel)
  refine ⟨hposts, hputs, hpost.2 (by decide), hput.2 fun n hn => ?_⟩
  obtain rfl : 5 = n := Option.some.inj hn
  decide

/-- One apple more than 64 bits can count is an internal failure. -/
theorem many_apples_fail :
    (postOfApples 9223372036854775808).Posts (someApples 9223372036854775808) ∧
      (fresh {}).catalogue.row? (Sources.counting.ids 0) = none ∧
      ((fresh {}).request .counting (postOfApples 9223372036854775808)).status? = some 500 := by
  refine ⟨⟨?_, eq_ok_of_toOption ?_⟩, ?_, ?_⟩
  · unfold Request.Reaches
    decide +kernel
  · decide +kernel
  · decide +kernel
  · decide +kernel

end Server

end Stockroom
