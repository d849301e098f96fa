import Stockroom.Proofs.Catalogue.Failure
import Stockroom.Proofs.Server.List
import Stockroom.Proofs.Server.Write

/-!
# What is read after a write

A write is answered with the product as the table then holds it. Only a removal of that product, or
another update of it that succeeds, touches its row. Until then whoever reads the product is given
the body that the writer was given.
-/

namespace Stockroom

open Http Number Service Text

namespace Http.Request

/-- The path of the request ends with an id. -/
def Names (r : Request) (id : Uuid) : Prop :=
  pathId ((item? r.target.path.toList).getD "") = .ok id

theorem Reaches.unique {r : Request} {a b : Endpoint} (ha : r.Reaches a) (hb : r.Reaches b) :
    a = b := by
  rw [Reaches] at ha hb
  exact Dispatch.route.inj (ha.symm.trans hb)

end Http.Request

/-! ## Items in the text of a page -/

namespace Json

theorem infix_commaSeparated {p : Points} {l : List Points} (h : p ∈ l) :
    p <:+: commaSeparated l := by
  fun_induction commaSeparated l with
  | case1 => exact absurd h List.not_mem_nil
  | case2 q => exact List.mem_singleton.1 h ▸ List.infix_refl p
  | case3 q rest _ ih =>
    rcases List.mem_cons.1 h with rfl | h
    · exact (List.prefix_append p _).isInfix
    · exact (ih h).trans ((List.suffix_cons _ _).trans (List.suffix_append q _)).isInfix

theorem infix_array {item : Json} {items : List Json} (h : item ∈ items) :
    item.writePoints <:+: (Json.array items).writePoints := by
  rw [writePoints, writeItems_eq_map]
  exact (infix_commaSeparated (List.mem_map_of_mem h)).trans (List.infix_append ['['.toNat] _ _)

theorem infix_object {key : Points} {value : Json} {ms : List (Points × Json)} :
    value.writePoints <:+: (Json.object ((key, value) :: ms)).writePoints := by
  rw [writePoints, writeMembers]
  have hmember : value.writePoints <:+: writeString key ++ ':'.toNat :: value.writePoints :=
    ((List.suffix_cons _ _).trans (List.suffix_append _ _)).isInfix
  exact (hmember.trans (infix_commaSeparated List.mem_cons_self)).trans
    (List.infix_append [0x7B] _ _)

theorem infix_write {j k : Json} (h : j.writePoints <:+: k.writePoints) :
    j.write.toList <:+: k.write.toList := by
  obtain ⟨front, back, h⟩ := h
  simp only [write, String.toList_ofList, ← h, List.flatMap_append]
  exact List.infix_append _ _ _

end Json

theorem PageView.infix_of_mem_items {v : PageView} {item : ProductView} (h : item ∈ v.items) :
    item.json.write.toList <:+: v.json.write.toList :=
  Json.infix_write ((Json.infix_array (List.mem_map_of_mem h)).trans Json.infix_object)

namespace Service

variable {σ : Type} {core : Core σ} {config : Except ConfigFault ListConfig} {r : Request} {s : σ}
  {n : Nat}

/-! ## Requests that succeed -/

section

variable {subject : Except AddressFault Points}

theorem exists_payload {α : Type} {validate : Json → Except (List Payload.Issue) α}
    {next : α → Handled σ} (hn : n < 400)
    (h : (conclude subject (withBody validate r s next)).status? = some n) :
    ∃ a, readBody validate r = .ok a := by
  cases hbody : readBody validate r with
  | ok a => exact ⟨a, rfl⟩
  | error rejection =>
    rw [withBody, hbody] at h
    cases rejection with
    | problem p =>
      have := status_of_readBody hbody
      rcases status?_of_problem rfl h with h | h <;> omega
    | unreadable =>
      rw [status?_of_respond rfl, Option.some.injEq] at h
      have : Rejection.unreadableResponse.status = 400 := rfl
      omega

theorem exists_item {path : String} {next : Uuid → Handled σ} (hn : n < 400)
    (h : (conclude subject (withId path s next)).status? = some n) :
    ∃ id, pathId ((item? path.toList).getD "") = .ok id := by
  cases hid : pathId ((item? path.toList).getD "") with
  | ok id => exact ⟨id, rfl⟩
  | error p =>
    unfold withId at h
    rw [hid] at h
    unfold pathId at hid
    split at hid
    · cases hid
    · cases hid
      have : badId.status = 400 := rfl
      rcases status?_of_problem rfl h with h | h <;> omega

end

theorem exists_posts (hr : r.Reaches .create) (hn : n < 400)
    (h : (serve core config r s).status? = some n) : ∃ p, r.Posts p := by
  rw [serve, handle_of_reaches hr] at h
  obtain ⟨p, hp⟩ := exists_payload hn h
  exact ⟨p, hr, hp⟩

theorem exists_puts (hr : r.Reaches .update) (hn : n < 400)
    (h : (serve core config r s).status? = some n) : ∃ id change, r.Puts id change := by
  rw [serve, handle_of_reaches hr] at h
  obtain ⟨change, hchange⟩ := exists_payload hn h
  rw [carryOut, withBody_of_ok hchange] at h
  obtain ⟨id, hid⟩ := exists_item hn h
  exact ⟨id, change, hr, hid, hchange⟩

theorem exists_held {id : Uuid} {change : Patch} (hr : r.Puts id change) (hn : n < 400)
    (h : (serve core config r s).status? = some n) :
    ∃ held, (core.queryById id s).result = .ok held := by
  rw [serve, handle_put hr] at h
  cases hresult : (core.queryById id s).result with
  | ok held => exact ⟨held, rfl⟩
  | error fault =>
    have hnotFound : notFound.status = 404 := rfl
    rcases fetch_verdict_of_error hresult with hv | hv
    · rcases status?_of_problem hv h with h | h <;> omega
    · have := status?_of_internal hv h
      omega

theorem exists_found (hr : r.Reaches .list) (h : (serve core config r s).status? = some 200) :
    ∃ (q : Listing) (found : List StoredProduct) (total : Nat),
      (core.query q.filter q.order q.page q.rows s).result = .ok found ∧
      (serve core config r s).response = some
        (.json 200 (PageView.json ⟨found.map StoredProduct.view, total, q.page, q.rows⟩)) := by
  rw [serve] at h ⊢
  cases config with
  | error fault =>
    rw [handle_of_reaches hr] at h
    have := status?_of_unexpected rfl h
    omega
  | ok config =>
    cases hq : Listing.ofParams (Form.params r.target.query) config with
    | error fault =>
      rw [handle_list_of_error hr hq] at h
      have hstatus : fault.problem.status = 400 := by cases fault <;> rfl
      rcases status?_of_problem rfl h with h | h <;> omega
    | ok q =>
      rw [handle_list_of_ok hr hq] at h ⊢
      cases hfound : (core.query q.filter q.order q.page q.rows s).result with
      | error fault =>
        have := status?_of_internal (list_verdict_of_error hfound) h
        omega
      | ok found =>
        cases htotal : (core.count q.filter
            (core.query q.filter q.order q.page q.rows s).state).result with
        | error fault =>
          have := status?_of_internal (list_verdict_of_count_error hfound htotal) h
          omega
        | ok total =>
          exact ⟨q, found, total, hfound, conclude_respond (list_verdict_of_ok hfound htotal)⟩

end Service

/-! ## The row of a product under requests -/

namespace Catalogue

variable {src : Sources} {c : Catalogue} {id : Uuid} {row : Row}

theorem row?_change {other : Uuid} {change : Patch} (hc : c.WellFormed)
    (hrow : c.row? id = some row)
    (hother : other = id → ∀ held, (queryById id c).result = .ok held →
      ∃ fault, (update src held change c).result = .error fault) :
    (Service.update (core src) other change c).state.row? id = some row := by
  cases hheld : ((core src).queryById other c).result with
  | error fault =>
    rw [Service.update, fetch_state_of_error hheld, core_queryById_state]
    exact hrow
  | ok held =>
    rw [update_state_of_ok hheld, core_queryById_state]
    by_cases hid : other = id
    · obtain ⟨fault, hfault⟩ := hother hid held (hid ▸ hheld)
      show (update src held change c).state.row? id = some row
      rw [update_state_of_error hc hfault]
      exact hrow
    · have hne : held.id ≠ id := fun h => hid ((queryById_ok hc hheld).1.symm.trans h)
      exact row?_update hne hrow

theorem row?_remove {other : Uuid} (hc : c.WellFormed) (hrow : c.row? id = some row)
    (hother : other ≠ id) : (Service.delete (core src) other c).state.row? id = some row := by
  cases hheld : ((core src).queryById other c).result with
  | error fault =>
    rw [delete_state_of_error hheld, core_queryById_state]
    exact hrow
  | ok held =>
    have hne : held.id ≠ id := fun h => hother ((queryById_ok hc hheld).1.symm.trans h)
    rw [delete_state_of_ok hheld, core_queryById_state]
    exact row?_delete hne hrow

theorem list_state (src : Sources) (q : Listing) (c : Catalogue) :
    (Service.list (core src) q c).state = c := by
  have hquery : ((core src).query q.filter q.order q.page q.rows c).state = c :=
    query_state q.filter q.order q.page q.rows c
  rw [Service.list, log_state, call_state, hquery]
  split
  · exact internal_state _ _ _ _
  · rw [call_state]
    split
    · exact internal_state _ _ _ _
    · rfl

theorem row?_carryOut {config : Except ConfigFault ListConfig} {r : Request} {endpoint : Endpoint}
    (hreaches : r.Reaches endpoint) (hc : c.WellFormed) (hrow : c.row? id = some row)
    (hdelete : ¬ (r.Reaches .delete ∧ r.Names id))
    (hupdate : ¬ (r.Reaches .update ∧ r.Names id ∧
      (serve (core src) config r c).status? = some 200)) :
    (carryOut (core src) config r c endpoint).state.row? id = some row := by
  cases endpoint with
  | create =>
    refine withBody_cases (Q := fun h : Handled Catalogue => h.state.row? id = some row)
      (fun _ => hrow) hrow fun p _ => ?_
    rw [create_state]
    exact row?_create hrow
  | update =>
    refine withBody_cases (Q := fun h : Handled Catalogue => h.state.row? id = some row)
      (fun _ => hrow) hrow fun change hbody => ?_
    refine withId_cases (Q := fun h : Handled Catalogue => h.state.row? id = some row) hrow
      fun other hitem => row?_change hc hrow fun hid held hheld => ?_
    -- An update that the core carries out is answered as a success, which is ruled out.
    have hputs : r.Puts id change := ⟨hreaches, hid ▸ hitem, hbody⟩
    cases hresult : (update src held change c).result with
    | error fault => exact ⟨fault, rfl⟩
    | ok changed =>
      have hsuccess : (serve (core src) config r c).status? = some 200 := by
        refine (status?_put_iff hputs hheld).2 ⟨changed, ?_⟩
        rw [core_queryById_state]
        exact hresult
      exact absurd ⟨hreaches, hputs.item, hsuccess⟩ hupdate
  | delete =>
    refine withId_cases (Q := fun h : Handled Catalogue => h.state.row? id = some row) hrow
      fun other hitem => ?_
    exact row?_remove hc hrow fun hid => hdelete ⟨hreaches, hid ▸ hitem⟩
  | list =>
    rw [carryOut]
    refine withListing_cases (Q := fun h : Handled Catalogue => h.state.row? id = some row)
      (fun _ => hrow) (fun _ => hrow) fun q => ?_
    rw [list_state]
    exact hrow
  | fetch =>
    refine withId_cases (Q := fun h : Handled Catalogue => h.state.row? id = some row) hrow
      fun other _ => ?_
    rw [get_state, core_queryById_state]
    exact hrow

end Catalogue

namespace Server

variable {src : Sources} {s : Server} {id : Uuid} {row : Row} {r : Request}

/-- No request removes the product with an id, and none that updates it succeeds. -/
def Spares (src : Sources) (id : Uuid) : List Request → Server → Prop
  | [], _ => True
  | r :: later, s =>
    ¬ (r.Reaches .delete ∧ r.Names id) ∧
    ¬ (r.Reaches .update ∧ r.Names id ∧ (s.request src r).status? = some 200) ∧
    Spares src id later (s.request src r).state

theorem sound_request (hplan : s.plan = []) (hsound : s.catalogue.Sound) (r : Request) :
    (s.request src r).state.catalogue.Sound := by
  rw [request_catalogue hplan]
  exact (Catalogue.keeps_sound src).serve hsound s.settings.listConfig r

theorem row?_request (hplan : s.plan = []) (hc : s.catalogue.WellFormed)
    (hrow : s.catalogue.row? id = some row) (hdelete : ¬ (r.Reaches .delete ∧ r.Names id))
    (hupdate : ¬ (r.Reaches .update ∧ r.Names id ∧ (s.request src r).status? = some 200)) :
    (s.request src r).state.catalogue.row? id = some row := by
  rw [request_status? hplan] at hupdate
  rw [request_catalogue hplan, serve, conclude_state]
  exact withRoute_cases (Q := fun h : Handled Catalogue => h.state.row? id = some row)
    (fun _ => hrow) (fun _ => hrow) fun endpoint hreaches =>
      Catalogue.row?_carryOut hreaches hc hrow hdelete hupdate

theorem row?_after (hplan : s.plan = []) (hsound : s.catalogue.Sound)
    (hrow : s.catalogue.row? id = some row) {later : List Request}
    (hlater : Spares src id later s) : (s.after src later).catalogue.row? id = some row := by
  induction later generalizing s with
  | nil => exact hrow
  | cons r later ih =>
    obtain ⟨hdelete, hupdate, hrest⟩ := hlater
    have hnext := row?_request hplan hsound.wellFormed hrow hdelete hupdate
    exact ih hplan (sound_request hplan hsound r) hnext hrest

/-! ## Writes and reads -/

/-- A write that succeeds is answered with the product as the table then holds it. -/
theorem exists_written (hplan : s.plan = []) (hsound : s.catalogue.Sound) {status : Nat}
    (hr : r.Reaches .create ∧ status = 201 ∨ r.Reaches .update ∧ status = 200)
    (h : (s.request src r).status? = some status) :
    ∃ p : StoredProduct, (s.request src r).response = some (.json status p.view.json) ∧
      (r.Reaches .update → r.Names p.id) ∧
      (s.request src r).state.catalogue.row? p.id = some p.row := by
  rw [request_status? hplan] at h
  rw [request_response hplan, request_catalogue hplan, serve, conclude_state]
  rcases hr with ⟨hr, rfl⟩ | ⟨hr, rfl⟩
  · obtain ⟨p, hp⟩ := exists_posts hr (by decide) h
    obtain ⟨made, hmade⟩ := (status?_post_iff hp).1 h
    obtain ⟨-, -, -, -, hrow⟩ := Catalogue.create_ok hsound.wellFormed hmade
    rw [handle_post hp, conclude_respond (create_verdict_of_ok hmade), create_state]
    exact ⟨made, rfl, fun hr' => absurd (hr.unique hr') (by decide), hrow⟩
  · obtain ⟨id, change, hp⟩ := exists_puts hr (by decide) h
    obtain ⟨held, hheld⟩ := exists_held hp (by decide) h
    obtain ⟨changed, hchanged⟩ := (status?_put_iff hp hheld).1 h
    rw [handle_put hp, conclude_respond (update_verdict_of_ok hheld hchanged),
      update_state_of_ok hheld]
    rw [Catalogue.core_queryById_state] at hchanged ⊢
    obtain ⟨-, -, -, -, -, hid, hrow⟩ := Catalogue.update_ok hsound.wellFormed hchanged
    have hheldId := (Catalogue.queryById_ok hsound.wellFormed hheld).1
    rw [← hid] at hrow
    exact ⟨changed, rfl, fun _ => (hid.trans hheldId) ▸ hp.item, hrow⟩

theorem get_response (hplan : s.plan = []) {p : StoredProduct}
    (hrow : s.catalogue.row? p.id = some p.row) (hr : r.Reaches .fetch) (hid : r.Names p.id) :
    (s.request src r).response = some (.json 200 p.view.json) := by
  have hp : ((Catalogue.core src).queryById p.id s.catalogue).result = .ok p := by
    obtain ⟨t, n, k, hc, hfind⟩ := Catalogue.exists_ready_of_row? hrow
    show (Catalogue.queryById p.id s.catalogue).result = .ok p
    simp only [Catalogue.queryById, hc, Table.store?, hfind, Row.product_row]
  rw [request_response hplan, serve, handle_of_reaches hr, carryOut, withId_of_ok hid,
    conclude_respond (get_verdict_of_ok hp)]

theorem list_response (hplan : s.plan = []) (hc : s.catalogue.WellFormed) {p : StoredProduct}
    (hrow : s.catalogue.row? p.id = some p.row) (hr : r.Reaches .list)
    (h : (s.request src r).status? = some 200) :
    ∃ v : PageView, (s.request src r).response = some (.json 200 v.json) ∧
      ∀ item ∈ v.items, item.id = p.id → item = p.view := by
  rw [request_status? hplan] at h
  obtain ⟨q, found, total, hfound, hresponse⟩ := exists_found hr h
  refine ⟨_, (request_response hplan r).trans hresponse, fun item hitem hid => ?_⟩
  obtain ⟨p', hp', rfl⟩ := List.mem_map.1 hitem
  have hrow' := Catalogue.query_ok hc hfound hp'
  have hid' : p'.id = p.id := hid
  rw [hid', hrow, Option.some.injEq] at hrow'
  rw [StoredProduct.row_injective hrow']

/-- What a write was answered with is what every read returns until the product is removed or
updated again: a look-up of it has the same body, and a page that shows it shows that body. -/
theorem reads_return_writes (settings : Settings) (src : Sources) (requests : List Request)
    {r : Request} {status : Nat}
    (hr : r.Reaches .create ∧ status = 201 ∨ r.Reaches .update ∧ status = 200)
    (h : (((fresh settings).after src requests).request src r).status? = some status) :
    let written := ((fresh settings).after src requests).request src r
    ∃ p : StoredProduct, written.response = some (.json status p.view.json) ∧
      (r.Reaches .update → r.Names p.id) ∧
      ∀ later, Spares src p.id later written.state →
        let s := written.state.after src later
        (∀ g : Request, g.Reaches .fetch → g.Names p.id →
          (s.request src g).response = some (.json 200 p.view.json)) ∧
        ∀ l : Request, l.Reaches .list → (s.request src l).status? = some 200 →
          ∃ v : PageView, (s.request src l).response = some (.json 200 v.json) ∧
            ∀ item ∈ v.items, item.id = p.id → item.json = p.view.json ∧
              p.view.json.write.toList <:+: v.json.write.toList := by
  intro written
  have hplan : ((fresh settings).after src requests).plan = [] := after_plan requests
  have hbefore := sound_after settings src requests
  obtain ⟨p, hresponse, hid, hrow⟩ := exists_written hplan hbefore hr h
  refine ⟨p, hresponse, hid, fun later hlater => ?_⟩
  have hsound : written.state.catalogue.Sound := sound_request hplan hbefore r
  have hrow' := row?_after (s := written.state) hplan hsound hrow hlater
  have hplan' : (written.state.after src later).plan = [] := (after_plan later).trans hplan
  have hwf : (written.state.after src later).catalogue.WellFormed :=
    (catalogue_after (s := written.state) (Catalogue.keeps_sound src) hplan hsound later).wellFormed
  refine ⟨fun g hg hname => get_response hplan' hrow' hg hname, fun l hl hstatus => ?_⟩
  obtain ⟨v, hv, hitems⟩ := list_response hplan' hwf hrow' hl hstatus
  refine ⟨v, hv, fun item hitem hitemId => ?_⟩
  have hitem' := hitems item hitem hitemId
  exact ⟨congrArg _ hitem', hitem' ▸ PageView.infix_of_mem_items hitem⟩

/-- A client that looks up the first product. -/
def getFirst : Request := { putOfApples 0 with method := "GET", body := [] }

theorem five_apples_read :
    let written := ((fresh {}).after .counting [postOfApples 3]).request .counting (putOfApples 5)
    (putOfApples 5).Reaches .update ∧ written.status? = some 200 ∧
      ∃ p : StoredProduct, p.id = Sources.counting.ids 0 ∧
        written.response = some (.json 200 p.view.json) ∧
        let s := written.state.after .counting [putOfApples 0, postOfApples 3]
        (s.request .counting getFirst).response = written.response := by
  intro written
  have hr : (putOfApples 5).Reaches .update := by decide +kernel
  have hstatus : written.status? = some 200 := by decide +kernel
  obtain ⟨p, hresponse, hid, hreads⟩ :=
    reads_return_writes {} .counting [postOfApples 3] (Or.inr ⟨hr, rfl⟩) hstatus
  have hfirst : p.id = Sources.counting.ids 0 := by
    have hnamed : (putOfApples 5).Names (Sources.counting.ids 0) :=
      eq_ok_of_toOption (by decide +kernel)
    exact Except.ok.inj ((hid hr).symm.trans hnamed)
  have hlater : Spares .counting p.id [putOfApples 0, postOfApples 3] written.state := by
    refine ⟨fun h => absurd h.1 ?_, fun h => absurd h.2.2 ?_, fun h => absurd h.1 ?_,
      fun h => absurd h.1 ?_, trivial⟩ <;> decide +kernel
  have hget : getFirst.Reaches .fetch := by decide +kernel
  have hname : getFirst.Names p.id := hfirst ▸ eq_ok_of_toOption (by decide +kernel)
  exact ⟨hr, hstatus, p, hfirst, hresponse,
    ((hreads _ hlater).1 getFirst hget hname).trans hresponse.symm⟩

end Server

end Stockroom
