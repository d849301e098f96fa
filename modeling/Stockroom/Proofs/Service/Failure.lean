import Stockroom.Proofs.Service.Refusal

/-!
# What a client learns of a failure

Of most faults of a core the client is told nothing but that there was one. So a client cannot tell
two cores from each other that differ in such faults alone, and every such fault has one response.
-/

namespace Stockroom

open Http Service Text

/-! ## What is seen of a core -/

namespace CoreFault

/-- Whether the client is told nothing of a fault. A cancelled request has no response, and the
client does learn that the product is gone that was to be looked up or updated. -/
def isInternal (op : Operation) : CoreFault → Bool
  | .cancelled => false
  | .notFound _ => op != .queryById && op != .update
  | _ => true

/-- The fault, but for all that the client is not told. -/
def seen (op : Operation) (fault : CoreFault) : CoreFault :=
  if fault.isInternal op then .other "" else fault

end CoreFault

variable {σ : Type}

def Outcome.seen {α : Type} (op : Operation) (o : Outcome σ α) : Outcome σ α :=
  { result := o.result.mapError (·.seen op), state := o.state }

/-- A core that differs from another one in its log and in faults that the client is not told. -/
def Core.seen (core : Core σ) : Core σ where
  create p s := (core.create p s).seen .create
  update held change s := (core.update held change s).seen .update
  delete held s := (core.delete held s).seen .delete
  query f order page rows s := (core.query f order page rows s).seen .query
  count f s := (core.count f s).seen .count
  queryById id s := (core.queryById id s).seen .queryById

namespace Service

variable {core : Core σ} {config : Except ConfigFault ListConfig} {r : Request} {s : σ}

/-- What of a handled request the client can come to see. -/
def Handled.ending (h : Handled σ) : Verdict × σ := (h.verdict, h.state)

theorem log_ending (level : Level) (message : Points) (rest : Handled σ) :
    (log level message rest).ending = rest.ending := rfl

/-- A call of what is seen of an operation ends as the call of the operation does, if what follows
tells nothing of a fault but what is seen of it. -/
theorem call_seen {α : Type} {op : Operation} {run : σ → Outcome σ α}
    {next next' : Except CoreFault α → σ → Handled σ}
    (hok : ∀ a s, (next (.ok a) s).ending = (next' (.ok a) s).ending)
    (herror : ∀ fault s, (next (.error (fault.seen op)) s).ending = (next' (.error fault) s).ending)
    (s : σ) :
    (call op (fun s => (run s).seen op) s next).ending = (call op run s next').ending := by
  show (next ((run s).result.mapError (·.seen op)) (run s).state).ending =
    (next' (run s).result (run s).state).ending
  cases (run s).result with
  | ok a => exact hok a _
  | error fault => exact herror fault _

theorem create_seen (p : NewProduct) (s : σ) :
    (create core.seen p s).ending = (create core p s).ending :=
  call_seen (fun _ _ => rfl) (fun fault _ => by cases fault <;> rfl) s

theorem fetch_seen {next next' : StoredProduct → σ → Handled σ}
    (hnext : ∀ p s, (next p s).ending = (next' p s).ending) (id : Uuid) (s : σ) :
    (fetch core.seen id s next).ending = (fetch core id s next').ending :=
  call_seen hnext (fun fault _ => by cases fault <;> rfl) s

theorem update_seen (id : Uuid) (change : Patch) (s : σ) :
    (update core.seen id change s).ending = (update core id change s).ending := by
  apply fetch_seen
  intro p s
  exact call_seen (fun _ _ => rfl) (fun fault _ => by cases fault <;> rfl) s

theorem delete_seen (id : Uuid) (s : σ) :
    (delete core.seen id s).ending = (delete core id s).ending := by
  refine call_seen (fun p s => ?_) (fun fault _ => by cases fault <;> rfl) s
  exact call_seen (fun _ _ => rfl) (fun fault _ => by cases fault <;> rfl) s

theorem list_seen (q : Listing) (s : σ) :
    (list core.seen q s).ending = (list core q s).ending := by
  rw [list, list, log_ending, log_ending]
  refine call_seen (fun found s => ?_) (fun fault _ => by cases fault <;> rfl) s
  exact call_seen (fun _ _ => rfl) (fun fault _ => by cases fault <;> rfl) s

theorem perform_seen (task : Task) (s : σ) :
    (task.perform core.seen s).ending = (task.perform core s).ending := by
  cases task with
  | create p => exact create_seen p s
  | update id change => exact update_seen id change s
  | delete id => exact delete_seen id s
  | list q => exact list_seen q s
  | get id => exact fetch_seen (fun _ _ => rfl) id s

theorem handle_seen (config : Except ConfigFault ListConfig) (r : Request) (s : σ) :
    (handle core.seen config r s).ending = (handle core config r s).ending := by
  cases hdispatch : dispatch productRoutes r.method r.target.path with
  | route endpoint =>
    have hr : r.Reaches endpoint := hdispatch
    rcases hr.asks_or_isRefused with ⟨task, htask⟩ | hrefused | ⟨rfl, fault, hfault⟩
    · rw [handle_of_asks htask, handle_of_asks htask]
      exact perform_seen task s
    · -- A refused request comes to no call, so no core matters to it.
      by_cases hgarbled : r.IsGarbled
      · rw [handle_of_isGarbled hgarbled, handle_of_isGarbled hgarbled]
      · obtain ⟨p, -, hhandle⟩ := exists_refusal hrefused hgarbled
        rw [hhandle, hhandle]
    · rw [handle_of_reaches hr, handle_of_reaches hr, hfault]
      rfl
  | _ => simp only [handle, withRoute, hdispatch]

theorem conclude_response_congr {subject : Except AddressFault Points} {h h' : Handled σ}
    (hv : h.verdict = h'.verdict) :
    (conclude subject h).response = (conclude subject h').response := by
  unfold conclude
  rw [hv]
  cases h'.verdict <;> cases subject <;> try rfl
  dsimp only
  split <;> rfl

theorem serve_seen (core : Core σ) (config : Except ConfigFault ListConfig) (r : Request) (s : σ) :
    (serve core.seen config r s).response = (serve core config r s).response ∧
      (serve core.seen config r s).state = (serve core config r s).state := by
  have hending : (handle core.seen config r s).ending = (handle core config r s).ending :=
    handle_seen config r s
  rw [serve, serve, conclude_state, conclude_state]
  exact ⟨conclude_response_congr (congrArg Prod.fst hending), congrArg Prod.snd hending⟩

/-- What a client is answered that sends one request after another. -/
def answers (core : Core σ) (config : Except ConfigFault ListConfig) :
    List Request → σ → List (Option Response)
  | [], _ => []
  | r :: requests, s =>
    let e := serve core config r s
    e.response :: answers core config requests e.state

theorem answers_seen (config : Except ConfigFault ListConfig) (requests : List Request) (s : σ) :
    answers core.seen config requests s = answers core config requests s := by
  induction requests generalizing s with
  | nil => rfl
  | cons r requests ih =>
    obtain ⟨hresponse, hstate⟩ := serve_seen core config r s
    rw [answers, answers, hresponse, hstate, ih]

/-! ## The response to a failure -/

/-- A call that a task comes to and that fails. -/
inductive Raises (core : Core σ) (s : σ) : Task → Operation → CoreFault → Prop
  | create {p : NewProduct} {fault : CoreFault} (h : (core.create p s).result = .error fault) :
      Raises core s (.create p) .create fault
  | lookUp {task : Task} {id : Uuid} {fault : CoreFault} (hid : task.lookedUp? = some id)
      (h : (core.queryById id s).result = .error fault) : Raises core s task .queryById fault
  | update {id : Uuid} {change : Patch} {held : StoredProduct} {fault : CoreFault}
      (hheld : (core.queryById id s).result = .ok held)
      (h : (core.update held change (core.queryById id s).state).result = .error fault) :
      Raises core s (.update id change) .update fault
  | delete {id : Uuid} {held : StoredProduct} {fault : CoreFault}
      (hheld : (core.queryById id s).result = .ok held)
      (h : (core.delete held (core.queryById id s).state).result = .error fault) :
      Raises core s (.delete id) .delete fault
  | query {q : Listing} {fault : CoreFault}
      (h : (core.query q.filter q.order q.page q.rows s).result = .error fault) :
      Raises core s (.list q) .query fault
  | count {q : Listing} {found : List StoredProduct} {fault : CoreFault}
      (hfound : (core.query q.filter q.order q.page q.rows s).result = .ok found)
      (h : (core.count q.filter (core.query q.filter q.order q.page q.rows s).state).result =
        .error fault) : Raises core s (.list q) .count fault

def Verdict.IsInternal (v : Verdict) : Prop := ∃ name context, v = .problem (.internal name context)

theorem internal_isInternal {op : Operation} {fault : CoreFault} (h : fault.isInternal op = true)
    (name : Points) (context : List (Points × Detail)) (s : σ) :
    (internal name context fault s).verdict.IsInternal := by
  cases fault with
  | cancelled => cases h
  | _ => exact ⟨name, context, rfl⟩

theorem fetch_isInternal {id : Uuid} {fault : CoreFault}
    (h : (core.queryById id s).result = .error fault)
    (hfault : fault.isInternal .queryById = true) (next : StoredProduct → σ → Handled σ) :
    (fetch core id s next).verdict.IsInternal := by
  rw [fetch, call_verdict, h]
  cases fault with
  | notFound gone => cases hfault
  | cancelled => cases hfault
  | _ => exact ⟨_, _, rfl⟩

theorem update_isInternal {id : Uuid} {change : Patch} {held : StoredProduct} {fault : CoreFault}
    (hheld : (core.queryById id s).result = .ok held)
    (h : (core.update held change (core.queryById id s).state).result = .error fault)
    (hfault : fault.isInternal .update = true) :
    (update core id change s).verdict.IsInternal := by
  rw [update, fetch, call_verdict, hheld]
  dsimp only
  rw [call_verdict, h]
  cases fault with
  | notFound gone => cases hfault
  | cancelled => cases hfault
  | _ => exact ⟨_, _, rfl⟩

theorem delete_isInternal_of_lookUp {id : Uuid} {fault : CoreFault}
    (h : (core.queryById id s).result = .error fault)
    (hfault : fault.isInternal .queryById = true) : (delete core id s).verdict.IsInternal := by
  rw [delete, call_verdict, h]
  cases fault with
  | notFound gone => cases hfault
  | cancelled => cases hfault
  | _ => exact ⟨_, _, rfl⟩

theorem perform_isInternal {task : Task} {op : Operation} {fault : CoreFault}
    (h : Raises core s task op fault) (hfault : fault.isInternal op = true) :
    (task.perform core s).verdict.IsInternal := by
  cases h with
  | create h =>
    rw [Task.perform, Service.create, call_verdict, h]
    exact internal_isInternal hfault _ _ _
  | lookUp hid h =>
    -- Three of the tasks look a product up, and the deletion has a handler of its own for it.
    cases task with
    | create p => cases hid
    | update id change => exact fetch_isInternal (Option.some.inj hid ▸ h) hfault _
    | delete id => exact delete_isInternal_of_lookUp (Option.some.inj hid ▸ h) hfault
    | list q => cases hid
    | get id => exact fetch_isInternal (Option.some.inj hid ▸ h) hfault _
  | update hheld h => exact update_isInternal hheld h hfault
  | delete hheld h =>
    rw [Task.perform, Service.delete, call_verdict, hheld]
    dsimp only
    rw [call_verdict, h]
    exact internal_isInternal hfault _ _ _
  | query h =>
    rw [Task.perform, list_verdict_of_error h]
    exact internal_isInternal hfault _ _ _
  | count hfound h =>
    rw [Task.perform, list_verdict_of_count_error hfound h]
    exact internal_isInternal hfault _ _ _

def internalResponse : Response where
  status := 500
  contentType := some "application/json"
  body := "\x7b\"error\":\"Internal Server Error\"\x7d"

theorem problemResponse_internal (name : Points) (context : List (Points × Detail)) :
    problemResponse (.internal name context) = .ok internalResponse := by
  have hbody : (Problem.body Problem.internalMessage []).body = .ok internalResponse.body :=
    eq_ok_of_toOption (by decide)
  rw [problemResponse, Problem.answer, hbody]
  rfl

theorem response_of_raises {task : Task} {op : Operation} {fault : CoreFault}
    (hasks : r.Asks config task) (h : Raises core s task op fault)
    (hfault : fault.isInternal op = true) (hnamed : ∃ subject, r.subject = .ok subject) :
    (serve core config r s).response = some internalResponse := by
  obtain ⟨name, context, hv⟩ := perform_isInternal h hfault
  obtain ⟨subject, hsubject⟩ := hnamed
  rw [serve, handle_of_asks hasks, hsubject, conclude_problem hv, problemResponse_internal]
  rfl

/-- A client cannot tell two cores from each other that are seen to be one, however they fail, and
each failure that it is told nothing of has one response. -/
theorem failures_look_alike {core core' : Core σ} (hcores : core.seen = core'.seen)
    (config : Except ConfigFault ListConfig) (s : σ) :
    (∀ requests, answers core config requests s = answers core' config requests s) ∧
      ∀ r task op fault, r.Asks config task → Raises core s task op fault →
        fault.isInternal op = true → (∃ subject, r.subject = .ok subject) →
          (serve core config r s).response = some internalResponse := by
  refine ⟨fun requests => ?_, fun r task op fault => response_of_raises⟩
  rw [← answers_seen, hcores, answers_seen]

def someItem : String := "00000000-0000-4000-8000-000000000000"

theorem getItem_asks :
    (getItem "testserver" someItem).Asks (.ok .standard) (.get (Sources.counting.ids 0)) :=
  .get (by decide) (by decide)

/-- Whether a look-up finds no database or says that the client sent a bad identifier, the client is
told of an internal failure. -/
theorem unreachable_looks_like_bad_id :
    let r := getItem "testserver" someItem
    let lost : Core Unit := failing (.store .unreachable)
    let blaming : Core Unit := failing (.problem badId)
    lost.seen = blaming.seen ∧ r.Asks (.ok .standard) (.get (Sources.counting.ids 0)) ∧
      Raises blaming () (.get (Sources.counting.ids 0)) .queryById (.problem badId) ∧
      answers lost (.ok .standard) [r, r] () = answers blaming (.ok .standard) [r, r] () ∧
      (serve blaming (.ok .standard) r ()).response = some internalResponse := by
  intro r lost blaming
  have hseen : lost.seen = blaming.seen := rfl
  have hraises : Raises blaming () (.get (Sources.counting.ids 0)) .queryById (.problem badId) :=
    .lookUp rfl rfl
  have haddressed : r.IsAddressed := ⟨by rfl, "testserver", rfl, by decide⟩
  have hnamed := haddressed.exists_subject (by decide)
  obtain ⟨hanswers, -⟩ := failures_look_alike hseen (.ok .standard) ()
  obtain ⟨-, hresponse⟩ := failures_look_alike hseen.symm (.ok .standard) ()
  exact ⟨hseen, getItem_asks, hraises, hanswers [r, r],
    hresponse r _ _ _ getItem_asks hraises rfl hnamed⟩

/-- A cancelled look-up has no response, unlike one that fails. -/
theorem cancelled_unanswered :
    let r := getItem "testserver" someItem
    r.Asks (.ok .standard) (.get (Sources.counting.ids 0)) ∧
      (serve (failing .cancelled) (.ok .standard) r ()).response = none ∧
      (serve (failing (.other "")) (.ok .standard) r ()).response = some internalResponse := by
  refine ⟨getItem_asks, ?_, ?_⟩ <;> decide +kernel

end Service

end Stockroom
