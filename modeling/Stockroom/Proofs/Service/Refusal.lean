import Stockroom.Proofs.Http.Form
import Stockroom.Proofs.Http.Origin
import Stockroom.Proofs.Listing.Fault
import Stockroom.Proofs.Server
import Stockroom.Proofs.Service.Task

/-!
# Requests that are refused

A request to an endpoint is refused for its body, for the item in its path or for its query string.
No other request has a response of status 400, whatever the core is and however it fails. A refused
request comes to no operation of the core. Its response is of status 400 if the log can name the
request; a body that nobody could read is answered without that.
-/

namespace Stockroom

open Http Service Text

/-! ## What is refused -/

namespace Http

/-- A request with a body that is rejected before anyone reads it. -/
def Request.IsGarbled (r : Request) : Prop :=
  r.Reaches .create ∧ readBody Payload.newProduct r = .error .unreadable ∨
    r.Reaches .update ∧ readBody Payload.patch r = .error .unreadable

end Http

namespace Service

variable {σ : Type} {core : Core σ} {config : Except ConfigFault ListConfig} {r : Request} {s : σ}

/-! ## The answers to refused requests -/

theorem withBody_of_problem {α : Type} {validate : Json → Except (List Payload.Issue) α}
    {p : Problem} (h : readBody validate r = .error (.problem p)) (next : α → Handled σ) :
    withBody validate r s next = problem p s := by
  rw [withBody, h]

theorem withBody_of_unreadable {α : Type} {validate : Json → Except (List Payload.Issue) α}
    (h : readBody validate r = .error .unreadable) (next : α → Handled σ) :
    withBody validate r s next = respond Rejection.unreadableResponse s := by
  rw [withBody, h]

/-- A request is told a response if the log can name it, as it can every one with an address. -/
def Exchange.Tells (e : Exchange σ) (r : Request) (response : Response) : Prop :=
  e.response = r.subject.toOption.map (fun _ => response) ∧
    (r.IsAddressed → e.response = some response)

theorem tells_of_problem {endpoint : Endpoint} {p : Problem} (hr : r.Reaches endpoint)
    (hp : ∃ text, p.answer.body = .ok text)
    (hv : (handle core config r s).verdict = .problem p) :
    (serve core config r s).Tells r (.json p.status p.answer) := by
  have hresponse : (serve core config r s).response = _ := response_of_problem hp hv
  refine ⟨hresponse, fun haddressed => ?_⟩
  obtain ⟨subject, hsubject⟩ := haddressed.exists_subject hr.head?_path
  rw [hresponse, hsubject]
  rfl

theorem handle_of_isGarbled (h : r.IsGarbled) :
    handle core config r s = respond Rejection.unreadableResponse s := by
  rcases h with ⟨hr, h⟩ | ⟨hr, h⟩ <;> rw [handle_of_reaches hr, carryOut, withBody_of_unreadable h]

/-- A problem of status 400 with a body that can be written. -/
def IsRefusal (p : Problem) : Prop := p.status = 400 ∧ ∃ text, p.answer.body = .ok text

theorem isRefusal_badId : IsRefusal badId := by
  refine ⟨rfl, Problem.exists_body (isClean_points _) fun f hf => ?_⟩
  rw [List.mem_singleton.1 hf]
  exact ⟨isClean_points _, isClean_points _⟩

theorem isRefusal_of_ofParams {query : String} {c : ListConfig} {fault : ListFault}
    (h : Listing.ofParams (Form.params query) c = .error fault) : IsRefusal fault.problem := by
  have hnames : ∀ name ∈ fault.names, IsClean name := by
    intro name hname
    rcases Listing.namesParams_or_page h with ⟨-, hparams⟩ | ⟨rfl, -⟩
    · obtain ⟨p, hp, rfl⟩ := List.mem_map.1 (hparams name hname)
      exact (Form.isClean_of_mem_params hp).1
    · rw [List.mem_singleton.1 hname]
      exact isClean_points "page"
  obtain ⟨faults, hproblem, hkeys, hclean⟩ := fault.exists_fields
  rw [hproblem]
  refine ⟨rfl, Problem.exists_body (isClean_points _) fun f hf => ⟨hnames f.1 ?_, hclean f hf⟩⟩
  rw [← hkeys]
  exact List.mem_map_of_mem hf

theorem exists_refusal_of_readBody {α : Type} {validate : Json → Except (List Payload.Issue) α}
    (hvalidate : ∀ j is, validate j = .error is → ∀ i ∈ is, i.IsNamed) {rejection : Rejection}
    (h : readBody validate r = .error rejection) (hreadable : rejection ≠ .unreadable) :
    ∃ p, IsRefusal p ∧ ∀ (s : σ) next, withBody validate r s next = problem p s := by
  cases rejection with
  | problem p =>
    exact ⟨p, ⟨status_of_readBody h, exists_body_of_readBody hvalidate h⟩,
      fun _ next => withBody_of_problem h next⟩
  | unreadable => exact absurd rfl hreadable

theorem exists_refusal (h : r.IsRefused config) (hreadable : ¬ r.IsGarbled) :
    ∃ p, IsRefusal p ∧ ∀ (core : Core σ) s, handle core config r s = problem p s := by
  have hput (hr : r.Reaches .update) {rejection : Rejection}
      (hread : readBody Payload.patch r = .error rejection) :
      ∃ p, IsRefusal p ∧ ∀ (core : Core σ) s, handle core config r s = problem p s := by
    obtain ⟨p, hp, hbody⟩ := exists_refusal_of_readBody (fun _ _ => Payload.isNamed_of_patch) hread
      (by rintro rfl; exact hreadable (Or.inr ⟨hr, hread⟩))
    exact ⟨p, hp, fun core s => by rw [handle_of_reaches hr, carryOut, hbody]⟩
  cases h with
  | newProduct hr h =>
    obtain ⟨p, hp, hbody⟩ := exists_refusal_of_readBody (fun _ _ => Payload.isNamed_of_newProduct) h
      (by rintro rfl; exact hreadable (Or.inl ⟨hr, h⟩))
    exact ⟨p, hp, fun core s => by rw [handle_of_reaches hr, carryOut, hbody]⟩
  | patch hr h => exact hput hr h
  | item hr hendpoint h =>
    rcases hendpoint with rfl | rfl | rfl
    · -- The body of an update is read before the item is looked at.
      cases hread : readBody Payload.patch r with
      | ok change =>
        refine ⟨badId, isRefusal_badId, fun core s => ?_⟩
        rw [handle_of_reaches hr, carryOut, withBody_of_ok hread, withId_of_none h]
      | error rejection => exact hput hr hread
    · exact ⟨badId, isRefusal_badId, fun core s => by
        rw [handle_of_reaches hr, carryOut, withId_of_none h]⟩
    · exact ⟨badId, isRefusal_badId, fun core s => by
        rw [handle_of_reaches hr, carryOut, withId_of_none h]⟩
  | list hr hc h =>
    subst hc
    exact ⟨_, isRefusal_of_ofParams h, fun _ _ => handle_list_of_error hr h⟩

/-! ## The answers to all other requests -/

def Verdict.status? : Verdict → Option Nat
  | .respond r => some r.status
  | .problem p => some p.status
  | .unexpected _ => none
  | .cancelled => none

theorem verdict_status?_of_conclude {n : Nat} (hn : n ≠ 500) {h : Handled σ}
    {subject : Except AddressFault Points} (hstatus : (conclude subject h).status? = some n) :
    h.verdict.status? = some n := by
  cases hverdict : h.verdict with
  | respond response => rwa [status?_of_respond hverdict] at hstatus
  | problem p =>
    rcases status?_of_problem hverdict hstatus with h | h
    · rw [h]
      rfl
    · exact absurd h hn
  | unexpected kind => exact absurd (status?_of_unexpected hverdict hstatus) hn
  | cancelled =>
    rw [Exchange.status?, conclude_cancelled hverdict] at hstatus
    cases hstatus

theorem internal_status?_ne (op : Points) (context : List (Points × Detail)) (fault : CoreFault)
    (s : σ) : (internal op context fault s).verdict.status? ≠ some 400 := by
  unfold internal
  split
  · exact (by decide : none ≠ some 400)
  · exact (by decide : some 500 ≠ some 400)

theorem create_status?_ne (p : NewProduct) (s : σ) :
    (create core p s).verdict.status? ≠ some 400 := by
  rw [create, call_verdict]
  split
  · exact (by decide : some 201 ≠ some 400)
  · exact internal_status?_ne _ _ _ _

theorem fetch_status?_ne {next : StoredProduct → σ → Handled σ}
    (hnext : ∀ p s, (next p s).verdict.status? ≠ some 400) (id : Uuid) (s : σ) :
    (fetch core id s next).verdict.status? ≠ some 400 := by
  rw [fetch, call_verdict]
  split
  · exact hnext _ _
  · exact (by decide : some 404 ≠ some 400)
  · exact internal_status?_ne _ _ _ _

theorem get_status?_ne (id : Uuid) (s : σ) : (get core id s).verdict.status? ≠ some 400 := by
  refine fetch_status?_ne (fun p s => ?_) id s
  exact (by decide : some 200 ≠ some 400)

theorem update_status?_ne (id : Uuid) (change : Patch) (s : σ) :
    (update core id change s).verdict.status? ≠ some 400 := by
  refine fetch_status?_ne (fun p s => ?_) id s
  rw [call_verdict]
  split
  · exact (by decide : some 200 ≠ some 400)
  · exact (by decide : some 404 ≠ some 400)
  · exact internal_status?_ne _ _ _ _

theorem delete_status?_ne (id : Uuid) (s : σ) : (delete core id s).verdict.status? ≠ some 400 := by
  rw [delete, call_verdict]
  split
  · exact (by decide : some 204 ≠ some 400)
  · exact internal_status?_ne _ _ _ _
  · rw [call_verdict]
    split
    · exact (by decide : some 204 ≠ some 400)
    · exact internal_status?_ne _ _ _ _

theorem list_status?_ne (q : Listing) (s : σ) : (list core q s).verdict.status? ≠ some 400 := by
  rw [list, log_verdict, call_verdict]
  split
  · exact internal_status?_ne _ _ _ _
  · rw [call_verdict]
    split
    · exact internal_status?_ne _ _ _ _
    · exact (by decide : some 200 ≠ some 400)

theorem perform_status?_ne (task : Task) (s : σ) :
    (task.perform core s).verdict.status? ≠ some 400 := by
  cases task with
  | create p => exact create_status?_ne p s
  | update id change => exact update_status?_ne id change s
  | delete id => exact delete_status?_ne id s
  | list q => exact list_status?_ne q s
  | get id => exact get_status?_ne id s

theorem handle_status?_ne (h : ¬ r.IsRefused config) :
    (handle core config r s).verdict.status? ≠ some 400 := by
  cases hdispatch : dispatch productRoutes r.method r.target.path with
  | route endpoint =>
    have hr : r.Reaches endpoint := hdispatch
    rcases hr.asks_or_isRefused with ⟨task, htask⟩ | hrefused | ⟨rfl, fault, hfault⟩
    · rw [handle_of_asks htask]
      exact perform_status?_ne task s
    · exact absurd hrefused h
    · -- Without a configuration a list request fails before anyone looks at it.
      rw [handle_of_reaches hr, hfault]
      exact (by decide : none ≠ some 400)
  | wrongMethod allowed =>
    rw [handle, withRoute, hdispatch]
    exact (by decide : some 405 ≠ some 400)
  | redirect path =>
    rw [handle, withRoute, hdispatch]
    show (redirect r path s).verdict.status? ≠ some 400
    unfold redirect
    split
    · exact (by decide : some 307 ≠ some 400)
    · exact (by decide : none ≠ some 400)
  | nowhere =>
    rw [handle, withRoute, hdispatch]
    exact (by decide : some 404 ≠ some 400)

/-! ## Refused before the core -/

theorem status?_of_isRefusal {p : Problem} (hp : IsRefusal p)
    (subject : Except AddressFault Points) :
    (conclude subject (problem p s)).status? = some 400 ↔ ∃ name, subject = .ok name := by
  obtain ⟨hstatus, hbody⟩ := hp
  rw [Exchange.status?, response_of_problem hbody rfl]
  cases subject with
  | error fault => simp [Except.toOption]
  | ok name => simp [Except.toOption, Response.json, Response.ofJsonText, hstatus]

theorem status?_of_isRefused (h : r.IsRefused config) :
    (serve core config r s).status? = some 400 ↔
      r.IsGarbled ∨ ∃ subject, r.subject = .ok subject := by
  by_cases hgarbled : r.IsGarbled
  · have hv : (handle core config r s).verdict = .respond Rejection.unreadableResponse := by
      rw [handle_of_isGarbled hgarbled]
      rfl
    rw [serve, status?_of_respond hv]
    exact ⟨fun _ => Or.inl hgarbled, fun _ => rfl⟩
  · obtain ⟨p, hp, hhandle⟩ := exists_refusal h hgarbled
    rw [serve, hhandle, status?_of_isRefusal hp]
    exact ⟨Or.inr, fun h => h.resolve_left hgarbled⟩

theorem untouched_of_isRefused (h : r.IsRefused config) :
    (serve core config r s).calls = [] ∧ (serve core config r s).state = s := by
  rw [serve, conclude_state, conclude_calls]
  by_cases hgarbled : r.IsGarbled
  · rw [handle_of_isGarbled hgarbled]
    exact ⟨rfl, rfl⟩
  · obtain ⟨p, -, hhandle⟩ := exists_refusal h hgarbled
    rw [hhandle]
    exact ⟨rfl, rfl⟩

/-- A request has a response of status 400 exactly if it is refused and either the log can name it
or nobody could read its body. For a refused request no operation of the core runs, however the core
would fail. -/
theorem refused_before_core (core : Core σ) (config : Except ConfigFault ListConfig) (r : Request)
    (s : σ) :
    let e := serve core config r s
    (e.status? = some 400 ↔
      r.IsRefused config ∧ (r.IsGarbled ∨ ∃ subject, r.subject = .ok subject)) ∧
    (r.IsRefused config → e.calls = [] ∧ e.state = s) ∧
    (r.IsRefused config → r.IsAddressed → e.status? = some 400) := by
  refine ⟨⟨fun hstatus => ?_, fun h => (status?_of_isRefused h.1).2 h.2⟩, untouched_of_isRefused,
    fun h haddressed => ?_⟩
  · have hrefused : r.IsRefused config := by
      by_contra hnot
      exact handle_status?_ne hnot (verdict_status?_of_conclude (by decide) hstatus)
    exact ⟨hrefused, (status?_of_isRefused hrefused).1 hstatus⟩
  · obtain ⟨endpoint, hr⟩ := h.exists_reaches
    exact (status?_of_isRefused h).2 (Or.inr (haddressed.exists_subject hr.head?_path))

/-- A core whose operations all fail, for one reason. -/
def failing (fault : CoreFault) : Core σ where
  create _ s := { result := .error fault, state := s }
  update _ _ s := { result := .error fault, state := s }
  delete _ s := { result := .error fault, state := s }
  query _ _ _ _ s := { result := .error fault, state := s }
  count _ s := { result := .error fault, state := s }
  queryById _ s := { result := .error fault, state := s }

def getItem (host item : String) : Request where
  server := ⟨"testserver", 80⟩
  method := "GET"
  target := ⟨"/products/" ++ item, ""⟩
  headers := [("host", host)]

theorem bad_item_refused :
    let r := getItem "testserver" "x"
    let e := serve (failing (.problem badId)) (.ok .standard) r ()
    r.IsRefused (.ok .standard) ∧ r.IsAddressed ∧ e.status? = some 400 ∧ e.calls = [] := by
  intro r e
  have hr : r.Reaches .fetch := by decide
  have hrefused : r.IsRefused (.ok .standard) := .item hr (by decide) (by decide)
  have haddressed : r.IsAddressed := ⟨by rfl, "testserver", rfl, by decide⟩
  obtain ⟨-, hcalls, hstatus⟩ := refused_before_core (failing (.problem badId)) (.ok .standard) r ()
  exact ⟨hrefused, haddressed, hstatus hrefused haddressed, (hcalls hrefused).1⟩

end Service

/-- Behind a gateway, a client that names a host with a sign for two letters in it is told of an
internal failure, though the item is no identifier: the log cannot name the request. -/
theorem Server.unnamed_item_fails :
    let r : Request :=
      { scheme := "https", server := ⟨"h\u2100", 80⟩, method := "GET"
        target := ⟨"/products/x", ""⟩, headers := [("host", Percent.byteText "h\u2100")] }
    gatewayRequest? (getItem "h\u2100" "x") = some r ∧
      r.IsRefused (fresh {}).settings.listConfig ∧
      ((fresh {}).request .counting r).status? = none ∧
      ((fresh {}).gateway .counting (getItem "h\u2100" "x")).status? = some 500 := by
  intro r
  have hr : r.Reaches .fetch := by decide
  refine ⟨by decide +kernel, .item hr (by decide) (by decide), ?_, ?_⟩ <;> decide +kernel

end Stockroom
