import Stockroom.Proofs.Http.Route
import Stockroom.Proofs.Payload

/-!
# What requests do to a core

The service calls the operations of a core in a few ways only. The data and the patches that it
passes on are valid, and a product that it changes or removes it has looked up right before. What
the core keeps under such calls, every request keeps.
-/

namespace Stockroom

open Http Text

namespace Service

variable {σ : Type} {core : Core σ} {s : σ}

/-! ## States -/

@[simp] theorem respond_state (r : Response) (s : σ) : (respond r s).state = s := rfl

@[simp] theorem problem_state (p : Problem) (s : σ) : (problem p s).state = s := rfl

@[simp] theorem log_state (level : Level) (message : Points) (rest : Handled σ) :
    (log level message rest).state = rest.state := rfl

@[simp] theorem internal_state (op : Points) (context : List (Points × Detail))
    (fault : CoreFault) (s : σ) : (internal op context fault s).state = s := by
  unfold internal
  split <;> rfl

@[simp] theorem call_state {α : Type} (op : Operation) (run : σ → Outcome σ α) (s : σ)
    (next : Except CoreFault α → σ → Handled σ) :
    (call op run s next).state = (next (run s).result (run s).state).state := rfl

theorem call_verdict {α : Type} (op : Operation) (run : σ → Outcome σ α) (s : σ)
    (next : Except CoreFault α → σ → Handled σ) :
    (call op run s next).verdict = (next (run s).result (run s).state).verdict := rfl

theorem log_verdict (level : Level) (message : Points) (rest : Handled σ) :
    (log level message rest).verdict = rest.verdict := rfl

@[simp] theorem conclude_state (subject : Except AddressFault Points) (h : Handled σ) :
    (conclude subject h).state = h.state := by
  unfold conclude
  split
  · rfl
  · rfl
  · split <;> rfl
  · rfl
  · rfl

theorem conclude_calls (subject : Except AddressFault Points) (h : Handled σ) :
    (conclude subject h).calls = h.calls := by
  unfold conclude
  split
  · rfl
  · rfl
  · split <;> rfl
  · rfl
  · rfl

theorem create_state (p : NewProduct) (s : σ) :
    (create core p s).state = (core.create p s).state := by
  rw [create, call_state]
  split <;> simp

theorem fetch_state_of_error {id : Uuid} {fault : CoreFault} {next : StoredProduct → σ → Handled σ}
    (h : (core.queryById id s).result = .error fault) :
    (fetch core id s next).state = (core.queryById id s).state := by
  rw [fetch, call_state, h]
  cases fault <;> simp

theorem fetch_state_of_ok {id : Uuid} {p : StoredProduct} {next : StoredProduct → σ → Handled σ}
    (h : (core.queryById id s).result = .ok p) :
    (fetch core id s next).state = (next p (core.queryById id s).state).state := by
  rw [fetch, call_state, h]

theorem get_state (id : Uuid) (s : σ) :
    (get core id s).state = (core.queryById id s).state := by
  cases h : (core.queryById id s).result with
  | error fault => exact fetch_state_of_error h
  | ok p => exact fetch_state_of_ok h

theorem update_state_of_ok {id : Uuid} {change : Patch} {p : StoredProduct}
    (h : (core.queryById id s).result = .ok p) :
    (update core id change s).state =
      (core.update p change (core.queryById id s).state).state := by
  rw [update, fetch_state_of_ok h, call_state]
  split <;> simp

theorem delete_state_of_error {id : Uuid} {fault : CoreFault}
    (h : (core.queryById id s).result = .error fault) :
    (delete core id s).state = (core.queryById id s).state := by
  rw [delete, call_state, h]
  cases fault <;> simp

theorem delete_state_of_ok {id : Uuid} {p : StoredProduct}
    (h : (core.queryById id s).result = .ok p) :
    (delete core id s).state = (core.delete p (core.queryById id s).state).state := by
  rw [delete, call_state, h]
  dsimp only
  rw [call_state]
  split <;> simp

/-! ## How a request may end before its handler -/

section

variable {Q : Handled σ → Prop}

theorem withBody_cases {α : Type} {validate : Json → Except (List Payload.Issue) α} {r : Request}
    {next : α → Handled σ} (hproblem : ∀ p, Q (problem p s))
    (hrejected : Q (respond Rejection.unreadableResponse s))
    (hnext : ∀ a, readBody validate r = .ok a → Q (next a)) : Q (withBody validate r s next) := by
  unfold withBody
  split
  · next a ha => exact hnext a ha
  · exact hproblem _
  · exact hrejected

theorem withId_cases {path : String} {next : Uuid → Handled σ} (hproblem : Q (problem badId s))
    (hnext : ∀ id, pathId ((item? path.toList).getD "") = .ok id → Q (next id)) :
    Q (withId path s next) := by
  unfold withId
  cases h : pathId ((item? path.toList).getD "") with
  | ok id => exact hnext id h
  | error p =>
    have hp : p = badId := by
      unfold pathId at h
      split at h
      · cases h
      · exact (Except.error.inj h).symm
    exact hp ▸ hproblem

theorem withListing_cases {config : Except ConfigFault ListConfig} {query : String}
    {next : Listing → Handled σ}
    (hunexpected : ∀ kind, Q { verdict := .unexpected kind, state := s })
    (hproblem : ∀ p, Q (problem p s)) (hnext : ∀ q, Q (next q)) :
    Q (withListing config query s next) := by
  unfold withListing
  split
  · exact hunexpected _
  · split
    · next q _ => exact hnext q
    · exact hproblem _

theorem withRoute_cases {ε : Type} {routes : List (Route ε)} {r : Request}
    {next : ε → Handled σ} (hunexpected : ∀ kind, Q { verdict := .unexpected kind, state := s })
    (hrespond : ∀ response, Q (respond response s))
    (hnext : ∀ endpoint, dispatch routes r.method r.target.path = .route endpoint →
      Q (next endpoint)) : Q (withRoute routes r s next) := by
  unfold withRoute
  cases h : dispatch routes r.method r.target.path with
  | route endpoint => exact hnext endpoint h
  | wrongMethod allowed => exact hrespond _
  | redirect path =>
    show Q (redirect r path s)
    unfold redirect
    split
    · exact hrespond _
    · exact hunexpected _
  | nowhere => exact hrespond _

end

/-! ## What every request keeps -/

/-- What a core keeps under the calls of the service. -/
structure Keeps (core : Core σ) (P : σ → Prop) : Prop where
  create : ∀ {p s}, p.IsValid → P s → P (core.create p s).state
  query : ∀ {f order page rows s}, P s → P (core.query f order page rows s).state
  count : ∀ {f s}, P s → P (core.count f s).state
  queryById : ∀ {id s}, P s → P (core.queryById id s).state
  update : ∀ {id held change s}, change.IsValid → P s → (core.queryById id s).result = .ok held →
    P (core.update held change (core.queryById id s).state).state
  delete : ∀ {id held s}, P s → (core.queryById id s).result = .ok held →
    P (core.delete held (core.queryById id s).state).state

namespace Keeps

variable {P : σ → Prop} (hcore : Keeps core P) (hs : P s)
include hcore hs

theorem change (id : Uuid) {change : Patch} (hchange : change.IsValid) :
    P (Service.update core id change s).state := by
  cases h : (core.queryById id s).result with
  | error fault => exact (fetch_state_of_error h).symm ▸ hcore.queryById hs
  | ok held => exact (update_state_of_ok h).symm ▸ hcore.update hchange hs h

theorem remove (id : Uuid) : P (Service.delete core id s).state := by
  cases h : (core.queryById id s).result with
  | error fault => exact (delete_state_of_error h).symm ▸ hcore.queryById hs
  | ok held => exact (delete_state_of_ok h).symm ▸ hcore.delete hs h

theorem list (q : Listing) : P (Service.list core q s).state := by
  rw [Service.list, log_state, call_state]
  split
  · rw [internal_state]
    exact hcore.query hs
  · rw [call_state]
    split
    · rw [internal_state]
      exact hcore.count (hcore.query hs)
    · exact hcore.count (hcore.query hs)

theorem carryOut (config : Except ConfigFault ListConfig) (r : Request) (endpoint : Endpoint) :
    P (Service.carryOut core config r s endpoint).state := by
  cases endpoint with
  | create =>
    refine withBody_cases (Q := fun h => P h.state) (fun _ => hs) hs fun p hp => ?_
    obtain ⟨j, hj⟩ := exists_of_readBody hp
    rw [create_state]
    exact hcore.create (Payload.isValid_of_newProduct hj) hs
  | update =>
    refine withBody_cases (Q := fun h => P h.state) (fun _ => hs) hs fun change hchange => ?_
    obtain ⟨j, hj⟩ := exists_of_readBody hchange
    refine withId_cases (Q := fun h => P h.state) hs fun id _ => ?_
    exact hcore.change hs id (Payload.isValid_of_patch hj)
  | delete => exact withId_cases (Q := fun h => P h.state) hs fun id _ => hcore.remove hs id
  | list =>
    rw [Service.carryOut]
    exact withListing_cases (Q := fun h => P h.state) (fun _ => hs) (fun _ => hs) fun q =>
      hcore.list hs q
  | fetch =>
    refine withId_cases (Q := fun h => P h.state) hs fun id _ => ?_
    rw [get_state]
    exact hcore.queryById hs

theorem handle (config : Except ConfigFault ListConfig) (r : Request) :
    P (Service.handle core config r s).state :=
  withRoute_cases (Q := fun h => P h.state) (fun _ => hs) (fun _ => hs) fun endpoint _ =>
    hcore.carryOut hs config r endpoint

theorem serve (config : Except ConfigFault ListConfig) (r : Request) :
    P (Service.serve core config r s).state := by
  rw [Service.serve, conclude_state]
  exact hcore.handle hs config r

end Keeps

/-! ## Statuses -/

section

variable {config : Except ConfigFault ListConfig} {r : Request} {h : Handled σ}
  {subject : Except AddressFault Points}

def Exchange.status? (e : Exchange σ) : Option Nat := e.response.map Response.status

theorem conclude_respond {response : Response} (hv : h.verdict = .respond response) :
    (conclude subject h).response = some response := by
  unfold conclude
  rw [hv]

theorem conclude_cancelled (hv : h.verdict = .cancelled) :
    (conclude subject h).response = none := by
  unfold conclude
  rw [hv]

theorem conclude_problem {p : Problem} (hv : h.verdict = .problem p) :
    (conclude subject h).response =
      subject.toOption.map fun _ => (problemResponse p).toOption.getD unexpectedResponse := by
  unfold conclude
  rw [hv]
  cases subject with
  | error fault => rfl
  | ok subject =>
    dsimp only
    cases problemResponse p <;> rfl

theorem response_of_problem {p : Problem} (hp : ∃ text, p.answer.body = .ok text)
    (hv : h.verdict = .problem p) :
    (conclude subject h).response = subject.toOption.map fun _ => .json p.status p.answer := by
  obtain ⟨text, htext⟩ := hp
  have hresponse : problemResponse p = .ok (.json p.status p.answer) := by
    unfold problemResponse Response.json
    rw [htext, Json.write_of_body htext]
    rfl
  rw [conclude_problem hv, hresponse]
  rfl

theorem problemResponse_status {p : Problem} {response : Response}
    (hp : problemResponse p = .ok response) : response.status = p.status := by
  unfold problemResponse at hp
  cases hbody : p.answer.body with
  | error run =>
    rw [hbody] at hp
    cases hp
  | ok text =>
    rw [hbody] at hp
    cases hp
    rfl

theorem status?_of_respond {response : Response} (hv : h.verdict = .respond response) :
    (conclude subject h).status? = some response.status := by
  rw [Exchange.status?, conclude_respond hv]
  rfl

theorem status?_of_problem {p : Problem} (hv : h.verdict = .problem p) {n : Nat}
    (hn : (conclude subject h).status? = some n) : n = p.status ∨ n = 500 := by
  rw [Exchange.status?, conclude_problem hv] at hn
  cases subject with
  | error fault => cases hn
  | ok subject =>
    cases hp : problemResponse p with
    | error run =>
      rw [hp] at hn
      exact Or.inr (Option.some.inj hn).symm
    | ok response =>
      rw [hp] at hn
      refine Or.inl ?_
      rw [← Option.some.inj hn, ← problemResponse_status hp]
      rfl

theorem status?_of_unexpected {kind : String} (hv : h.verdict = .unexpected kind) {n : Nat}
    (hn : (conclude subject h).status? = some n) : n = 500 := by
  unfold conclude at hn
  rw [hv] at hn
  cases subject with
  | ok subject => exact (Option.some.inj hn).symm
  | error fault => cases hn

/-- A fault of the core that the client learns nothing of never looks like a success. -/
theorem status?_of_internal {op : Points} {context : List (Points × Detail)} {fault : CoreFault}
    {s : σ} (hv : h.verdict = (internal op context fault s).verdict) {n : Nat}
    (hn : (conclude subject h).status? = some n) : n = 500 := by
  have hcases : h.verdict = .cancelled ∨ h.verdict = .problem (.internal op context) := by
    rw [hv]
    cases fault
    case cancelled => exact Or.inl rfl
    all_goals exact Or.inr rfl
  rcases hcases with hv | hv
  · rw [Exchange.status?, conclude_cancelled hv] at hn
    cases hn
  · rcases status?_of_problem hv hn with h | h <;> exact h

theorem status?_of_internal_named {subject op : Points} {context : List (Points × Detail)}
    {fault : CoreFault} {s : σ} (hv : h.verdict = (internal op context fault s).verdict)
    (hfault : fault ≠ .cancelled) : (conclude (.ok subject) h).status? = some 500 := by
  have hproblem : h.verdict = .problem (.internal op context) := by
    rw [hv]
    cases fault
    case cancelled => exact absurd rfl hfault
    all_goals rfl
  rw [Exchange.status?, conclude_problem hproblem]
  cases hp : problemResponse (.internal op context) with
  | error run => rfl
  | ok response => exact congrArg some (problemResponse_status hp)

theorem withBody_of_ok {α : Type} {validate : Json → Except (List Payload.Issue) α} {a : α}
    {next : α → Handled σ} (ha : readBody validate r = .ok a) :
    withBody validate r s next = next a := by
  rw [withBody, ha]

theorem withId_of_ok {path : String} {id : Uuid} {next : Uuid → Handled σ}
    (hid : pathId ((item? path.toList).getD "") = .ok id) : withId path s next = next id := by
  unfold withId
  rw [hid]

theorem handle_of_reaches {endpoint : Endpoint} (hr : r.Reaches endpoint) :
    handle core config r s = carryOut core config r s endpoint := by
  rw [Request.Reaches] at hr
  rw [handle, withRoute, hr]

theorem handle_post {p : NewProduct} (hr : r.Posts p) :
    handle core config r s = create core p s := by
  rw [handle_of_reaches hr.reaches, carryOut, withBody_of_ok hr.body]

theorem handle_put {id : Uuid} {change : Patch} (hr : r.Puts id change) :
    handle core config r s = update core id change s := by
  rw [handle_of_reaches hr.reaches, carryOut, withBody_of_ok hr.body, withId_of_ok hr.item]

theorem create_verdict_of_ok {p : NewProduct} {made : StoredProduct}
    (h : (core.create p s).result = .ok made) :
    (create core p s).verdict = .respond (.json 201 made.view.json) := by
  rw [create, call, h]
  rfl

theorem update_verdict_of_ok {id : Uuid} {change : Patch} {held changed : StoredProduct}
    (hheld : (core.queryById id s).result = .ok held)
    (h : (core.update held change (core.queryById id s).state).result = .ok changed) :
    (update core id change s).verdict = .respond (.json 200 changed.view.json) := by
  rw [update, fetch, call, hheld]
  dsimp only
  rw [call, h]
  rfl

theorem fetch_verdict_of_error {id : Uuid} {fault : CoreFault}
    {next : StoredProduct → σ → Handled σ} (h : (core.queryById id s).result = .error fault) :
    (fetch core id s next).verdict = .problem notFound ∨
      (fetch core id s next).verdict = (internal "querybyid" [("id", .id id)] fault s).verdict := by
  rw [fetch, call, h]
  cases fault
  case notFound gone => exact Or.inl rfl
  all_goals exact Or.inr rfl

theorem get_verdict_of_ok {id : Uuid} {p : StoredProduct}
    (h : (core.queryById id s).result = .ok p) :
    (get core id s).verdict = .respond (.json 200 p.view.json) := by
  rw [get, fetch, call, h]
  rfl

theorem handle_list_of_ok {c : ListConfig} {q : Listing} (hr : r.Reaches .list)
    (hq : Listing.ofParams (Form.params r.target.query) c = .ok q) :
    handle core (.ok c) r s = list core q s := by
  rw [handle_of_reaches hr, carryOut]
  unfold withListing
  dsimp only
  rw [hq]

theorem handle_list_of_error {c : ListConfig} {fault : ListFault} (hr : r.Reaches .list)
    (hfault : Listing.ofParams (Form.params r.target.query) c = .error fault) :
    handle core (.ok c) r s = problem fault.problem s := by
  rw [handle_of_reaches hr, carryOut]
  unfold withListing
  dsimp only
  rw [hfault]

theorem list_verdict_of_ok {q : Listing} {found : List StoredProduct} {total : Nat}
    (hfound : (core.query q.filter q.order q.page q.rows s).result = .ok found)
    (htotal : (core.count q.filter (core.query q.filter q.order q.page q.rows s).state).result =
      .ok total) :
    (list core q s).verdict = .respond
      (.json 200 (PageView.json ⟨found.map StoredProduct.view, total, q.page, q.rows⟩)) := by
  rw [list, log, call, hfound]
  dsimp only
  rw [call, htotal]
  rfl

theorem list_verdict_of_error {q : Listing} {fault : CoreFault}
    (hfault : (core.query q.filter q.order q.page q.rows s).result = .error fault) :
    (list core q s).verdict = (internal "query"
      [("filter", .filter q.filter), ("order_by", .order q.order)] fault s).verdict := by
  rw [list, log, call, hfault]
  dsimp only
  unfold internal
  cases fault <;> rfl

theorem list_verdict_of_count_error {q : Listing} {found : List StoredProduct} {fault : CoreFault}
    (hfound : (core.query q.filter q.order q.page q.rows s).result = .ok found)
    (hfault : (core.count q.filter (core.query q.filter q.order q.page q.rows s).state).result =
      .error fault) :
    (list core q s).verdict =
      (internal "count" [("filter", .filter q.filter)] fault s).verdict := by
  rw [list, log, call, hfound]
  dsimp only
  rw [call, hfault]
  unfold internal
  cases fault <;> rfl

theorem status?_post_iff {p : NewProduct} (hr : r.Posts p) :
    (serve core config r s).status? = some 201 ↔ ∃ made, (core.create p s).result = .ok made := by
  rw [serve, handle_post hr]
  cases hresult : (core.create p s).result with
  | ok made =>
    rw [status?_of_respond (create_verdict_of_ok hresult)]
    exact ⟨fun _ => ⟨made, rfl⟩, fun _ => rfl⟩
  | error fault =>
    have hv : (create core p s).verdict =
        (internal "create" [("app", .newProduct p)] fault (core.create p s).state).verdict := by
      rw [create, call, hresult]
    refine ⟨fun h => absurd (status?_of_internal hv h) (by decide), ?_⟩
    rintro ⟨made, hmade⟩
    cases hmade

theorem status?_put_iff {id : Uuid} {change : Patch} {held : StoredProduct} (hr : r.Puts id change)
    (hheld : (core.queryById id s).result = .ok held) :
    (serve core config r s).status? = some 200 ↔
      ∃ changed, (core.update held change (core.queryById id s).state).result = .ok changed := by
  rw [serve, handle_put hr]
  cases hresult : (core.update held change (core.queryById id s).state).result with
  | ok changed =>
    rw [status?_of_respond (update_verdict_of_ok hheld hresult)]
    exact ⟨fun _ => ⟨changed, rfl⟩, fun _ => rfl⟩
  | error fault =>
    refine ⟨fun h => ?_, ?_⟩
    · by_cases hgone : ∃ gone, fault = .notFound gone
      · obtain ⟨gone, rfl⟩ := hgone
        have hv : (update core id change s).verdict = .problem notFound := by
          rw [update, fetch, call, hheld]
          dsimp only
          rw [call, hresult]
          rfl
        exact absurd (status?_of_problem hv h) (by decide)
      · have hv : (update core id change s).verdict =
            (internal "update" [("id", .id id), ("app", .patch change)] fault s).verdict := by
          rw [update, fetch, call, hheld]
          dsimp only
          rw [call, hresult]
          cases fault
          case notFound gone => exact absurd ⟨gone, rfl⟩ hgone
          all_goals rfl
        exact absurd (status?_of_internal hv h) (by decide)
    · rintro ⟨changed, hchanged⟩
      cases hchanged

end

end Service

end Stockroom
