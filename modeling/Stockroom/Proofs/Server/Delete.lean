import Stockroom.Proofs.Server.Read
import Stockroom.Proofs.Service.Refusal

/-!
# What is gone after a removal

A removal is always answered as done, and leaves every row but one as it is. Until the id is drawn
again nothing brings the row back: no request, no call, and no update of a product that a caller has
from before.
-/

namespace Stockroom

open Http Number Service Text

namespace Catalogue

variable {src : Sources} {c : Catalogue} {id : Uuid}

/-! ## A table without a row -/

/-- The catalogue without the row of an id. All other rows stay, in their order. -/
def without (c : Catalogue) (id : Uuid) : Catalogue :=
  match c.table with
  | .ready s => { c with table := .ready (s.erase id.text) }
  | _ => c

theorem row?_without (hc : c.WellFormed) (id other : Uuid) :
    (c.without id).row? other = if other = id then none else c.row? other := by
  obtain ⟨s, n, k, rfl, -⟩ := hc.exists_ready
  unfold without
  simp [Store.find?_erase]

theorem without_eq_self (hc : c.WellFormed) (hgone : c.row? id = none) : c.without id = c := by
  obtain ⟨s, n, k, rfl, -⟩ := hc.exists_ready
  rw [row?_ready, Store.find?_eq_none_iff, Store.contains_eq_false_iff] at hgone
  have hrows : s.rows.filter (·.id != id.text) = s.rows := by
    simpa [List.filter_eq_self] using hgone
  unfold without Store.erase
  simp [hrows]

theorem queryById_of_row?_eq_none (hc : c.WellFormed) (hgone : c.row? id = none) :
    (queryById id c).result = .error (.notFound id) := by
  obtain ⟨s, n, k, rfl, -⟩ := hc.exists_ready
  rw [row?_ready] at hgone
  unfold queryById
  simp [Table.store?, hgone]

theorem update_of_row?_eq_none {held : Product} (change : Patch) (hc : c.WellFormed)
    (hgone : c.row? held.id = none) :
    (update src held change c).result = .error (.notFound held.id) ∧
      (update src held change c).state.table = c.table := by
  obtain ⟨s, n, k, rfl, -⟩ := hc.exists_ready
  rw [row?_ready] at hgone
  unfold update
  simp [Table.store?, hgone]

theorem delete_eq (held : Product) (hc : c.WellFormed) :
    (delete held c).result = .ok () ∧ (delete held c).state = c.without held.id := by
  obtain ⟨s, n, k, rfl, -⟩ := hc.exists_ready
  rcases delete_cases held s n k with ⟨-, heq⟩ | ⟨hgone, heq⟩
  · rw [heq]
    exact ⟨rfl, rfl⟩
  · rw [heq, without_eq_self hc (Store.find?_eq_none_iff.2 hgone)]
    exact ⟨rfl, rfl⟩

theorem remove_eq (src : Sources) (id : Uuid) (hc : c.WellFormed) :
    (Service.delete (core src) id c).verdict = .respond .noContent ∧
      (Service.delete (core src) id c).state = c.without id := by
  cases hrow : c.row? id with
  | none =>
    have hlook : ((core src).queryById id c).result = .error (.notFound id) :=
      queryById_of_row?_eq_none hc hrow
    refine ⟨?_, ?_⟩
    · rw [Service.delete, call_verdict, hlook]
      rfl
    · rw [delete_state_of_error hlook, core_queryById_state, without_eq_self hc hrow]
  | some r =>
    obtain ⟨held, hheld⟩ := exists_of_row? hc hrow
    have hlook : ((core src).queryById id c).result = .ok held := hheld
    obtain ⟨hid, -⟩ := queryById_ok hc hheld
    obtain ⟨hresult, hstate⟩ := delete_eq held hc
    have hdelete : ((core src).delete held ((core src).queryById id c).state).result = .ok () := by
      rw [core_queryById_state]
      exact hresult
    refine ⟨?_, ?_⟩
    · rw [Service.delete, call_verdict, hlook]
      dsimp only
      rw [call_verdict, hdelete]
      rfl
    · rw [delete_state_of_ok hlook, core_queryById_state]
      exact hstate.trans (hid ▸ rfl)

/-! ## What stays gone -/

/-- The ids that were drawn on the way from one catalogue to another. -/
def idsDrawn (src : Sources) (c d : Catalogue) : List Uuid :=
  (List.range' c.idsUsed (d.idsUsed - c.idsUsed)).map src.ids

theorem mem_idsDrawn {c d : Catalogue} {n : Nat} (hfrom : c.idsUsed ≤ n) (hto : n < d.idsUsed) :
    src.ids n ∈ idsDrawn src c d := by
  refine List.mem_map_of_mem (List.mem_range'_1.2 ⟨hfrom, ?_⟩)
  omega

/-- Under an id there is no row, unless the id was drawn after the first `n` ones. -/
structure GoneSince (src : Sources) (n : Nat) (id : Uuid) (c : Catalogue) : Prop where
  wellFormed : c.WellFormed
  drawn : n ≤ c.idsUsed
  gone : (∀ m, n ≤ m → m < c.idsUsed → src.ids m ≠ id) → c.row? id = none

variable {n : Nat}

theorem gone_create (p : NewProduct) (hc : c.GoneSince src n id) :
    (create src p c).state.GoneSince src n id := by
  obtain ⟨hwf, hdrawn, hgone⟩ := hc
  have hwf' := wellFormed_create src p hwf
  obtain ⟨s, i, k, rfl, -⟩ := hwf.exists_ready
  have hnext (h : ∀ m, n ≤ m → m < i + 1 → src.ids m ≠ id) : s.find? id.text = none :=
    hgone fun m hn hm => h m hn (Nat.lt_succ_of_lt hm)
  rcases create_cases src p s i k with ⟨row, t, hrow, hins, heq⟩ | ⟨fault, -, heq⟩
  · rw [heq] at hwf' ⊢
    refine ⟨hwf', Nat.le_succ_of_le hdrawn, ?_⟩
    intro h
    obtain ⟨name, -, rfl⟩ := newRow_eq_ok_iff.1 hrow
    -- The row has the id that was just drawn, which is not the one that is gone.
    have hne : id.text ≠ (src.ids i).text :=
      fun htext => h i hdrawn (Nat.lt_succ_self i) (Uuid.text_injective htext).symm
    rw [row?_ready, Store.find?_insert hins, if_neg hne]
    exact hnext h
  · rw [heq] at hwf' ⊢
    exact ⟨hwf', Nat.le_succ_of_le hdrawn, hnext⟩

theorem gone_update (held : Product) (change : Patch) (hc : c.GoneSince src n id) :
    (update src held change c).state.GoneSince src n id := by
  obtain ⟨hwf, hdrawn, hgone⟩ := hc
  have hwf' := wellFormed_update src held change hwf
  obtain ⟨s, i, k, rfl, -⟩ := hwf.exists_ready
  rcases update_cases src held change s i k with
    ⟨-, heq⟩ | ⟨old, row, t, -, -, hrep, heq⟩ | ⟨_, _, -, -, heq⟩
  · rw [heq] at hwf' ⊢
    exact ⟨hwf', hdrawn, hgone⟩
  · rw [heq] at hwf' ⊢
    refine ⟨hwf', hdrawn, ?_⟩
    intro h
    -- A row is put only where there is one.
    have hnone : s.find? id.text = none := hgone h
    rw [row?_ready, Store.find?_replace hrep, hnone]
    simp
  · rw [heq] at hwf' ⊢
    exact ⟨hwf', hdrawn, hgone⟩

theorem gone_delete (held : Product) (hc : c.GoneSince src n id) :
    (delete held c).state.GoneSince src n id := by
  obtain ⟨hwf, hdrawn, hgone⟩ := hc
  have hwf' := wellFormed_delete held hwf
  have hstate := (delete_eq held hwf).2
  have hids : (c.without held.id).idsUsed = c.idsUsed := by
    unfold without
    split <;> rfl
  rw [hstate] at hwf' ⊢
  refine ⟨hwf', by rwa [hids], ?_⟩
  intro h
  rw [hids] at h
  rw [row?_without hwf, hgone h, ite_self]

theorem keeps_gone (src : Sources) (n : Nat) (id : Uuid) :
    Keeps (core src) (GoneSince src n id) where
  create {p _} _ hc := gone_create p hc
  query hc := by rwa [core, query_state]
  count hc := hc
  queryById hc := by rwa [core_queryById_state]
  update {_ held change _} _ hc _ := by
    rw [core_queryById_state]
    exact gone_update held change hc
  delete {_ held _} hc _ := by
    rw [core_queryById_state]
    exact gone_delete held hc

theorem gone_run (call : Call) (hc : c.GoneSince src n id) :
    (call.run (core src) c).state.GoneSince src n id := by
  cases call with
  | create p => exact gone_create p hc
  | update held change => exact gone_update held change hc
  | delete held => exact gone_delete held hc
  | query f order page rows => exact (query_state f order page rows c).symm ▸ hc
  | count f => exact hc
  | queryById other => exact (queryById_state other c).symm ▸ hc

end Catalogue

/-! ## Runs of requests and calls -/

/-- What happens to a server: a request, or a call of its core by someone else. -/
inductive Event where
  | request (r : Request)
  | call (call : Call)

namespace Server

variable {src : Sources} {s : Server}

def next (src : Sources) (s : Server) : Event → Server
  | .request r => (s.request src r).state
  | .call call => { s with catalogue := (call.run (Catalogue.core src) s.catalogue).state }

def through (src : Sources) (events : List Event) (s : Server) : Server :=
  events.foldl (next src) s

theorem through_plan (events : List Event) : (s.through src events).plan = s.plan := by
  induction events generalizing s with
  | nil => rfl
  | cons event events ih =>
    refine ih.trans ?_
    cases event <;> rfl

theorem through_settings (events : List Event) :
    (s.through src events).settings = s.settings := by
  induction events generalizing s with
  | nil => rfl
  | cons event events ih =>
    refine ih.trans ?_
    cases event <;> rfl

theorem catalogue_through {P : Catalogue → Prop} (hcore : Keeps (Catalogue.core src) P)
    (hrun : ∀ (call : Call) c, P c → P (call.run (Catalogue.core src) c).state)
    (hplan : s.plan = []) (hs : P s.catalogue) (events : List Event) :
    P (s.through src events).catalogue := by
  induction events generalizing s with
  | nil => exact hs
  | cons event events ih =>
    cases event with
    | request r =>
      refine ih (s := (s.request src r).state) hplan ?_
      rw [request_catalogue hplan]
      exact hcore.serve hs s.settings.listConfig r
    | call call =>
      exact ih (s := s.next src (.call call)) hplan (hrun call s.catalogue hs)

theorem reached_through (settings : Settings) (src : Sources) (events : List Event) :
    ((fresh settings).through src events).catalogue.Reached src :=
  catalogue_through (Catalogue.keeps_reached src) (fun call _ hc => hc.run call) rfl ⟨[], rfl⟩
    events

/-! ## Requests for a product that is not there -/

def notThere : Response := .json 404 (Problem.body "product not found" [])

/-- Nothing is left of a product. No page shows it, and whoever asks for it is told so. So is who
would change it, be it a client or a caller of the core that has the product from before. -/
structure Lacks (src : Sources) (id : Uuid) (s : Server) : Prop where
  row : s.catalogue.row? id = none
  get : ∀ r : Request, r.IsFor "GET" id → (s.request src r).Tells r notThere
  put : ∀ (r : Request) (change : Patch), r.IsFor "PUT" id →
    readBody Payload.patch r = .ok change → (s.request src r).Tells r notThere
  list : ∀ r : Request, r.Reaches .list → (s.request src r).status? = some 200 →
    ∃ v : PageView, (s.request src r).response = some (.json 200 v.json) ∧
      ∀ item ∈ v.items, item.id ≠ id
  update : ∀ (held : Product) (change : Patch), held.id = id →
    (Catalogue.update src held change s.catalogue).result = .error (.notFound id) ∧
      (Catalogue.update src held change s.catalogue).state.table = s.catalogue.table

variable {id : Uuid} {r : Request}

theorem tells_notThere (hplan : s.plan = []) {endpoint : Endpoint} (hr : r.Reaches endpoint)
    (hv : (handle (Catalogue.core src) s.settings.listConfig r s.catalogue).verdict =
      .problem notFound) : (s.request src r).Tells r notThere := by
  have hbody : ∃ text, notFound.answer.body = .ok text :=
    Problem.exists_body (isClean_points _) fun _ hf => absurd hf List.not_mem_nil
  unfold Exchange.Tells
  rw [request_response hplan]
  exact tells_of_problem hr hbody hv

theorem fetch_verdict_of_gone {next : StoredProduct → Catalogue → Handled Catalogue}
    (hc : s.catalogue.WellFormed) (hgone : s.catalogue.row? id = none) :
    (fetch (Catalogue.core src) id s.catalogue next).verdict = .problem notFound := by
  have hlook : ((Catalogue.core src).queryById id s.catalogue).result = .error (.notFound id) :=
    Catalogue.queryById_of_row?_eq_none hc hgone
  rw [fetch, call_verdict, hlook]
  rfl

theorem lacks_of_row?_eq_none (hplan : s.plan = []) (hc : s.catalogue.WellFormed)
    (hgone : s.catalogue.row? id = none) : s.Lacks src id where
  row := hgone
  get r hr := by
    have hreaches : r.Reaches .fetch := hr.reaches (by simp [itemEndpoints])
    apply tells_notThere hplan hreaches
    rw [handle_of_reaches hreaches, carryOut, withId_of_ok hr.pathId_ok]
    exact fetch_verdict_of_gone hc hgone
  put r change hr hbody := by
    have hreaches : r.Reaches .update := hr.reaches (by simp [itemEndpoints])
    apply tells_notThere hplan hreaches
    rw [handle_put ⟨hreaches, hr.pathId_ok, hbody⟩]
    exact fetch_verdict_of_gone hc hgone
  list r hr hstatus := by
    rw [request_status? hplan] at hstatus
    obtain ⟨q, found, total, hfound, hresponse⟩ := exists_found hr hstatus
    refine ⟨_, (request_response hplan r).trans hresponse, fun item hitem hid => ?_⟩
    obtain ⟨p, hp, rfl⟩ := List.mem_map.1 hitem
    have hrow := Catalogue.query_ok hc hfound hp
    have hid' : p.id = id := hid
    rw [hid', hgone] at hrow
    cases hrow
  update held change hid := by
    subst hid
    exact Catalogue.update_of_row?_eq_none change hc hgone

/-! ## Removals -/

theorem remove_request (hplan : s.plan = []) (hc : s.catalogue.WellFormed)
    (hr : r.IsFor "DELETE" id) :
    (s.request src r).response = some .noContent ∧
      (s.request src r).state = { s with catalogue := s.catalogue.without id } := by
  have hreaches : r.Reaches .delete := hr.reaches (by simp [itemEndpoints])
  have hhandle : handle (Catalogue.core src) s.settings.listConfig r s.catalogue =
      Service.delete (Catalogue.core src) id s.catalogue := by
    rw [handle_of_reaches hreaches, carryOut, withId_of_ok hr.pathId_ok]
  obtain ⟨hverdict, hstate⟩ := Catalogue.remove_eq src id hc
  refine ⟨?_, ?_⟩
  · rw [request_response hplan, serve, hhandle, conclude_respond hverdict]
  · have hcatalogue : (s.request src r).state.catalogue = s.catalogue.without id := by
      rw [request_catalogue hplan, serve, conclude_state, hhandle, hstate]
    rw [← hcatalogue]
    rfl

theorem after_removals (hplan : s.plan = []) (hc : s.catalogue.WellFormed)
    (hgone : s.catalogue.row? id = none) {again : List Request}
    (hagain : ∀ r ∈ again, r.IsFor "DELETE" id) : s.after src again = s := by
  induction again with
  | nil => rfl
  | cons r again ih =>
    rw [List.forall_mem_cons] at hagain
    have hsame : (s.request src r).state = s := by
      rw [(remove_request hplan hc hagain.1).2, Catalogue.without_eq_self hc hgone]
    show (s.request src r).state.after src again = s
    rw [hsame]
    exact ih hagain.2

/-- Whatever has happened before, a removal is carried out, whether or not the product is there. It
takes away the row of that product and nothing else, and to repeat it changes nothing. Whatever
happens then, nothing is left of the product unless its id is drawn again. -/
theorem deletion_final (settings : Settings) (src : Sources) (before : List Event) {r : Request}
    {id : Uuid} (hr : r.IsFor "DELETE" id) :
    let s := (fresh settings).through src before
    let removed := s.request src r
    removed.response = some .noContent ∧
      removed.state = { s with catalogue := s.catalogue.without id } ∧
      (∀ again : List Request, (∀ g ∈ again, g.IsFor "DELETE" id) →
        removed.state.after src again = removed.state ∧
          ∀ g ∈ again, (removed.state.request src g).response = some .noContent) ∧
      ∀ later : List Event,
        let t := removed.state.through src later
        id ∉ Catalogue.idsDrawn src removed.state.catalogue t.catalogue → t.Lacks src id := by
  intro s removed
  have hplan : s.plan = [] := through_plan before
  have hc : s.catalogue.WellFormed := (reached_through settings src before).wellFormed
  obtain ⟨hresponse, hstate⟩ : removed.response = _ ∧ removed.state = _ :=
    remove_request hplan hc hr
  have hwf : removed.state.catalogue.WellFormed := by
    have hcatalogue := (Catalogue.keeps_reached src).serve
      (reached_through settings src before) s.settings.listConfig r
    rw [← request_catalogue hplan] at hcatalogue
    exact hcatalogue.wellFormed
  have hgone : removed.state.catalogue.row? id = none := by
    rw [show removed.state = _ from hstate]
    exact (Catalogue.row?_without hc id id).trans (if_pos rfl)
  refine ⟨hresponse, hstate, fun again hagain => ?_, ?_⟩
  · exact ⟨after_removals (s := removed.state) hplan hwf hgone hagain,
      fun g hg => (remove_request (s := removed.state) hplan hwf (hagain g hg)).1⟩
  · intro later t hlater
    have hsince : t.catalogue.GoneSince src removed.state.catalogue.idsUsed id :=
      catalogue_through (s := removed.state) (Catalogue.keeps_gone src _ id)
        (fun call _ hc => Catalogue.gone_run call hc) hplan
        ⟨hwf, Nat.le_refl _, fun _ => hgone⟩ later
    have hnever : t.catalogue.row? id = none :=
      hsince.gone fun n hn ht hid => hlater (hid ▸ Catalogue.mem_idsDrawn hn ht)
    exact lacks_of_row?_eq_none ((through_plan later).trans hplan) hsince.wellFormed hnever

/-- A client that removes the first product, which it names at length. -/
def removeFirst : Request :=
  { getFirst with
    method := "DELETE"
    target := ⟨"/products/urn:uuid:\x7b00000000-0000-4000-8000-000000000000\x7d", ""⟩ }

theorem removeFirst_isFor : removeFirst.IsFor "DELETE" (Sources.counting.ids 0) :=
  ⟨rfl, "urn:uuid:\x7b00000000-0000-4000-8000-000000000000\x7d", rfl, by decide⟩

def firstApples : StoredProduct :=
  ⟨Sources.counting.ids 0, "apple", .ofInt 1, 3, ⟨7⟩, Sources.counting.clock 0,
    Sources.counting.clock 0⟩

/-- The first apples stay gone when others come in, and when someone who still has them gives them
another price. -/
theorem first_apples_stay_gone :
    let s := (fresh {}).through .counting [.request (postOfApples 3)]
    let removed := s.request .counting removeFirst
    let later :=
      [.request (postOfApples 3), .call (.update firstApples { cost := some (.ofInt 2) })]
    let t := removed.state.through .counting later
    s.catalogue.row? (Sources.counting.ids 0) = some firstApples.row ∧
      removed.response = some .noContent ∧
      (t.catalogue.row? (Sources.counting.ids 1)).isSome = true ∧
      t.Lacks .counting (Sources.counting.ids 0) := by
  intro s removed later t
  obtain ⟨hresponse, -, -, hlater⟩ :=
    deletion_final {} .counting [.request (postOfApples 3)] removeFirst_isFor
  have hrun : s.catalogue.row? (Sources.counting.ids 0) = some firstApples.row ∧
      (t.catalogue.row? (Sources.counting.ids 1)).isSome = true ∧
      Sources.counting.ids 0 ∉
        Catalogue.idsDrawn .counting removed.state.catalogue t.catalogue := by decide +kernel
  obtain ⟨hthere, hothers, hdrawn⟩ := hrun
  exact ⟨hthere, hresponse, hothers, hlater later hdrawn⟩

/-- Behind a gateway, a client that names a host with a sign for two letters in it is not told that
the product is gone: the log cannot name the request. -/
theorem unnamed_look_up_fails :
    let gone := (fresh {}).after .counting [postOfApples 3, removeFirst]
    let r := getItem "h\u2100" "00000000-0000-4000-8000-000000000000"
    ∃ passed, gatewayRequest? r = some passed ∧ passed.IsFor "GET" (Sources.counting.ids 0) ∧
      gone.catalogue.row? (Sources.counting.ids 0) = none ∧
      (gone.request .counting passed).status? = none ∧
      (gone.gateway .counting r).status? = some 500 := by
  intro gone r
  let passed : Request :=
    { r with
      scheme := "https"
      server := ⟨"h\u2100", 80⟩
      headers := [("host", Percent.byteText "h\u2100")] }
  have hnamed : passed.IsFor "GET" (Sources.counting.ids 0) :=
    ⟨rfl, "00000000-0000-4000-8000-000000000000", rfl, by decide +kernel⟩
  have hrun : gatewayRequest? r = some passed ∧
      gone.catalogue.row? (Sources.counting.ids 0) = none ∧
      (gone.request .counting passed).status? = none ∧
      (gone.gateway .counting r).status? = some 500 := by decide +kernel
  obtain ⟨hpassed, hgone, hfails, hanswer⟩ := hrun
  exact ⟨passed, hpassed, hnamed, hgone, hfails, hanswer⟩

end Server

end Stockroom
