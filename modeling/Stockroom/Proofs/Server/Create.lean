import Stockroom.Proofs.Product.View
import Stockroom.Proofs.Server.Read

/-!
# What is read of a new product

A client whose product is created reads it in the answer: what it asked for, under the id and as of
the time of the creation. The cost is there exactly if it is finite. A payload may also have an
infinite cost, which is kept, but no number of a body says so.
-/

namespace Stockroom

open Http Number Service Text

namespace Number.Real64

theorem isFinite_stored (x : Real64) : x.stored.isFinite = x.isFinite := by
  unfold stored
  split
  · next h =>
    cases x with
    | nan => cases h
    | signed negative rank =>
      have hrank : rank.val = 0 := by
        cases negative with
        | true => exact Int.ofNat_eq_zero.1 (Int.neg_eq_zero.1 h)
        | false => exact Int.ofNat_eq_zero.1 h
      rw [isFinite, hrank]
      rfl
  · rfl

theorem isNan_of_isFinite {x : Real64} (h : x.isFinite = true) : x.isNan = false := by
  cases x with
  | nan => cases h
  | signed negative rank => rfl

theorem same_stored {x : Real64} (h : x.isNan = false) : x.stored.same x = true := by
  rw [same, isNan_stored, h, key_stored]
  simp

theorem exists_finite?_same_iff (x : Real64) :
    (∃ y ∈ x.stored.finite?, y.same x = true) ↔ x.isFinite = true := by
  rw [finite?, isFinite_stored]
  cases h : x.isFinite with
  | true => exact ⟨fun _ => rfl, fun _ => ⟨_, rfl, same_stored (isNan_of_isFinite h)⟩⟩
  | false =>
    refine ⟨?_, fun h => by cases h⟩
    rintro ⟨y, hy, -⟩
    exact absurd hy (Option.not_mem_none y)

end Number.Real64

theorem StoredProduct.fits_view {p : StoredProduct} (hrow : p.row.WellFormed)
    (hcreated : p.created.Fits) (hupdated : p.updated.Fits) : p.view.Fits where
  name := isString_points p.name.toList
  quantity := by
    have hfits : fitsInt64 p.view.quantity = true := hrow.quantity
    rw [fitsInt64, decide_eq_true_eq] at hfits
    exact natAbs_lt_of_int64 (by omega)
  created := ⟨hcreated, fun n hn => absurd hn (Option.not_mem_none n)⟩
  updated := ⟨hupdated, fun n hn => absurd hn (Option.not_mem_none n)⟩

namespace Catalogue

variable {src : Sources} {c : Catalogue}

theorem wellFormed_of_row? (hc : c.WellFormed) {id : Uuid} {row : Row}
    (hrow : c.row? id = some row) : row.WellFormed := by
  obtain ⟨t, n, k, rfl, hfind⟩ := exists_ready_of_row? hrow
  exact hc.rows row (Store.mem_of_find? hfind)

theorem read_created {p : NewProduct} {made : StoredProduct} (hclock : ∀ k, (src.clock k).Fits)
    (hp : p.IsValid) (hc : c.WellFormed) (h : (create src p c).result = .ok made) :
    ProductReading.ofText? made.view.json.write =
      some ⟨src.ids c.idsUsed, p.name, p.cost.stored.finite?, p.quantity, p.userId,
        ⟨src.clock c.ticks, none⟩, ⟨src.clock c.ticks, none⟩⟩ := by
  obtain ⟨name, hname, hfields, -, hrow⟩ := create_ok hc h
  -- A valid name is a text, so the column keeps it as it is.
  have hpname : points name = p.name := by
    obtain ⟨text, -, htext⟩ := hp.name
    rw [htext, storedText_points, Except.ok.injEq] at hname
    rw [htext, hname]
  have hmade := wellFormed_of_row? (wellFormed_create src p hc) hrow
  rw [ProductReading.ofText?_write
    (StoredProduct.fits_view hmade (hfields ▸ hclock _) (hfields ▸ hclock _)), hfields, ← hpname]
  rfl

end Catalogue

/-- The reading of a product that was made with some data under an id, at a time. -/
structure ProductReading.IsOf (v : ProductReading) (p : NewProduct) (id : Uuid) (now : Timestamp) :
    Prop where
  id : v.id = id
  name : v.name = p.name
  quantity : v.quantity = p.quantity
  userId : v.userId = p.userId
  created : v.created.wall = now
  updated : v.updated.wall = now

namespace Server

variable {src : Sources} {s : Server} {r : Request}

theorem exists_reading (hclock : ∀ k, (src.clock k).Fits) (hplan : s.plan = [])
    (hs : s.catalogue.Reached src) (hr : r.Reaches .create)
    (h : (s.request src r).status? = some 201) :
    ∃ p response, r.Posts p ∧ (s.request src r).response = some response ∧
      ProductReading.ofText? response.body =
        some ⟨src.ids s.catalogue.idsUsed, p.name, p.cost.stored.finite?, p.quantity, p.userId,
          ⟨src.clock s.catalogue.ticks, none⟩, ⟨src.clock s.catalogue.ticks, none⟩⟩ := by
  rw [request_status? hplan] at h
  obtain ⟨p, hp⟩ := exists_posts hr (by decide) h
  obtain ⟨made, hmade⟩ := (status?_post_iff hp).1 h
  obtain ⟨j, hj⟩ := exists_of_readBody hp.body
  refine ⟨p, .json 201 made.view.json, hp, ?_,
    Catalogue.read_created hclock (Payload.isValid_of_newProduct hj) hs.wellFormed hmade⟩
  rw [request_response hplan, serve, handle_post hp, conclude_respond (create_verdict_of_ok hmade)]

/-- A creation that succeeds is answered with what its payload asks for, under the next id and with
the time of the creation as both dates. The cost is a number equal to that of the payload exactly if
that is finite. -/
theorem creation_echoed_iff (hclock : ∀ k, (src.clock k).Fits) (hplan : s.plan = [])
    (hs : s.catalogue.Reached src) (hr : r.Reaches .create)
    (h : (s.request src r).status? = some 201) :
    ∃ p response v, r.Posts p ∧ (s.request src r).response = some response ∧
      ProductReading.ofText? response.body = some v ∧
      v.IsOf p (src.ids s.catalogue.idsUsed) (src.clock s.catalogue.ticks) ∧
      ((∃ x ∈ v.cost, x.same p.cost = true) ↔ p.cost.isFinite = true) := by
  obtain ⟨p, response, hp, hresponse, hread⟩ := exists_reading hclock hplan hs hr h
  exact ⟨p, response, _, hp, hresponse, hread, ⟨rfl, rfl, rfl, rfl, rfl, rfl⟩,
    p.cost.exists_finite?_same_iff⟩

theorem fits_counting (k : Nat) : (Sources.counting.clock k).Fits := by
  have hsecond : min k 59 < 10 ^ 2 := by omega
  constructor <;> first | exact hsecond | exact of_decide_eq_true rfl

theorem three_apples_echoed :
    let s := (fresh {}).after .counting [postOfApples 5]
    (∀ k, (Sources.counting.clock k).Fits) ∧ s.plan = [] ∧ s.catalogue.Reached .counting ∧
      (postOfApples 3).Reaches .create ∧
      (s.request .counting (postOfApples 3)).status? = some 201 ∧
      ∃ response v, (s.request .counting (postOfApples 3)).response = some response ∧
        ProductReading.ofText? response.body = some v ∧
        v.IsOf (someApples 3) (Sources.counting.ids 1) (Sources.counting.clock 1) ∧
        ∃ x ∈ v.cost, x.same (.ofInt 1) = true := by
  intro s
  have hclock := fits_counting
  have hplan : s.plan = [] := after_plan [postOfApples 5]
  have hs : s.catalogue.Reached .counting := reached_after {} .counting [postOfApples 5]
  have hr : (postOfApples 3).Reaches .create := by decide +kernel
  have hstatus : (s.request .counting (postOfApples 3)).status? = some 201 := by decide +kernel
  obtain ⟨p, response, v, hp, hresponse, hread, hv, hcost⟩ :=
    creation_echoed_iff hclock hplan hs hr hstatus
  have hbody : readBody Payload.newProduct (postOfApples 3) = .ok (someApples 3) :=
    eq_ok_of_toOption (by decide +kernel)
  have hp' : p = someApples 3 := Except.ok.inj (hp.body.symm.trans hbody)
  subst hp'
  have hids : s.catalogue.idsUsed = 1 := by decide +kernel
  have hticks : s.catalogue.ticks = 1 := by decide +kernel
  rw [hids, hticks] at hv
  exact ⟨hclock, hplan, hs, hr, hstatus, response, v, hresponse, hread, hv,
    hcost.2 (by decide +kernel)⟩

/-- A client that posts pearls without a price. -/
def postOfPearls : Request :=
  { postOfApples 3 with
    body := utf8 ("\x7b\"name\": \"pearl\", \"cost\": \"inf\", \"quantity\": 3, " ++
      "\"user_id\": \"00000000-0000-0000-0000-000000000007\"\x7d") }

/-- What it is told of them has no cost. -/
theorem pearls_without_cost :
    postOfPearls.Posts ⟨"pearl", .infinity false, 3, ⟨7⟩⟩ ∧
      ((fresh {}).request .counting postOfPearls).status? = some 201 ∧
      ∃ response v, ((fresh {}).request .counting postOfPearls).response = some response ∧
        ProductReading.ofText? response.body = some v ∧ v.cost = none := by
  have hr : postOfPearls.Reaches .create := by decide +kernel
  have hbody : readBody Payload.newProduct postOfPearls =
      .ok ⟨"pearl", .infinity false, 3, ⟨7⟩⟩ := eq_ok_of_toOption (by decide +kernel)
  have hstatus : ((fresh {}).request .counting postOfPearls).status? = some 201 := by decide +kernel
  obtain ⟨p, response, hp, hresponse, hread⟩ :=
    exists_reading fits_counting rfl (reached_after {} .counting []) hr hstatus
  have hp' : p = ⟨"pearl", .infinity false, 3, ⟨7⟩⟩ := Except.ok.inj (hp.body.symm.trans hbody)
  subst hp'
  have hcost : (Real64.infinity false).stored.finite? = none := by decide +kernel
  exact ⟨⟨hr, hbody⟩, hstatus, response, _, hresponse, hread, hcost⟩

end Server

end Stockroom
