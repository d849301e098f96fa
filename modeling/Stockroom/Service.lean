import Stockroom.Catalogue
import Stockroom.Http.Body
import Stockroom.Http.Form
import Stockroom.Http.Origin
import Stockroom.Http.Route
import Stockroom.Listing
import Stockroom.Product.View

/-!
# The service

A request is dispatched, checked and then carried out with the operations of a core, whatever that
core is. What the core refuses is reported under the operation that was wanted, and the client is
not told why. An exchange records the response, the next state, the log and the operations that were
called.
-/

namespace Stockroom

open Http Text

inductive Operation where
  | create
  | update
  | delete
  | query
  | count
  | queryById
  deriving DecidableEq

def Operation.text : Operation → String
  | .create => "create"
  | .update => "update"
  | .delete => "delete"
  | .query => "query"
  | .count => "count"
  | .queryById => "query_by_id"

namespace Service

/-- How the handling of a request ends. -/
inductive Verdict where
  | respond (r : Response)
  | problem (p : Problem)
  | unexpected (kind : String)
  | cancelled

/-- A handled request, before its problem is turned into a response. -/
structure Handled (σ : Type) where
  verdict : Verdict
  state : σ
  logs : List LogLine := []
  calls : List Operation := []

variable {σ : Type}

/-- Calls an operation, whatever it comes to, and goes on with its result. -/
def call {α : Type} (op : Operation) (run : σ → Outcome σ α) (s : σ)
    (next : Except CoreFault α → σ → Handled σ) : Handled σ :=
  let out := run s
  let rest := next out.result out.state
  { rest with logs := out.logs ++ rest.logs, calls := op :: rest.calls }

def respond (r : Response) (s : σ) : Handled σ := { verdict := .respond r, state := s }

def problem (p : Problem) (s : σ) : Handled σ := { verdict := .problem p, state := s }

/-- Writes a line before anything that follows. -/
def log (level : Level) (message : Points) (rest : Handled σ) : Handled σ :=
  { rest with logs := ⟨level, .service, message⟩ :: rest.logs }

/-- A fault of the core that the client learns nothing of. A cancelled request has no response. -/
def internal (op : Points) (context : List (Points × Detail)) (fault : CoreFault) (s : σ) :
    Handled σ :=
  match fault with
  | .cancelled => { verdict := .cancelled, state := s }
  | _ => problem (.internal op context) s

def notFound : Problem := .request 404 "product not found"

def badId : Problem := .field "product_id" "ID is not in its proper form"

def pathId (raw : Points) : Except Problem Uuid :=
  match Uuid.ofPoints? raw with
  | some id => .ok id
  | none => .error badId

/-! ## Handlers -/

def create (core : Core σ) (p : NewProduct) (s : σ) : Handled σ :=
  call .create (core.create p) s fun result s =>
    match result with
    | .ok made => respond (.json 201 made.view.json) s
    | .error fault => internal "create" [("app", .newProduct p)] fault s

def fetch (core : Core σ) (id : Uuid) (s : σ) (next : StoredProduct → σ → Handled σ) : Handled σ :=
  call .queryById (core.queryById id) s fun result s =>
    match result with
    | .ok p => next p s
    | .error (.notFound _) => problem notFound s
    | .error fault => internal "querybyid" [("id", .id id)] fault s

def get (core : Core σ) (id : Uuid) (s : σ) : Handled σ :=
  fetch core id s fun p s => respond (.json 200 p.view.json) s

/-- A product that was removed between look-up and update was not found. -/
def update (core : Core σ) (id : Uuid) (change : Patch) (s : σ) : Handled σ :=
  fetch core id s fun p s =>
    call .update (core.update p change) s fun result s =>
      match result with
      | .ok changed => respond (.json 200 changed.view.json) s
      | .error (.notFound _) =>
        log .warning ("Product " ++ id.text ++ " was removed before it could be updated")
          (problem notFound s)
      | .error fault => internal "update" [("id", .id id), ("app", .patch change)] fault s

/-- Deleting a product that is not there succeeds. -/
def delete (core : Core σ) (id : Uuid) (s : σ) : Handled σ :=
  call .queryById (core.queryById id) s fun result s =>
    match result with
    | .error (.notFound _) =>
      log .info ("Product " ++ id.text ++ " already absent, nothing to delete")
        (respond .noContent s)
    | .error fault => internal "querybyid" [("id", .id id)] fault s
    | .ok p =>
      call .delete (core.delete p) s fun result s =>
        match result with
        | .ok () => respond .noContent s
        | .error fault => internal "delete" [("id", .id id)] fault s

/-- Answers with a page and with the number of all products that the filter selects. -/
def list (core : Core σ) (q : Listing) (s : σ) : Handled σ :=
  log .info ("Query params: " ++ q.shown) <|
    call .query (core.query q.filter q.order q.page q.rows) s fun result s =>
      match result with
      | .error fault =>
        internal "query" [("filter", .filter q.filter), ("order_by", .order q.order)] fault s
      | .ok found =>
        call .count (core.count q.filter) s fun result s =>
          match result with
          | .error fault => internal "count" [("filter", .filter q.filter)] fault s
          | .ok total =>
            respond
              (.json 200 (PageView.json ⟨found.map StoredProduct.view, total, q.page, q.rows⟩)) s

/-! ## Requests -/

/-- Goes on with the payload of a request, if it has a good one. -/
def withBody {α : Type} (validate : Json → Except (List Payload.Issue) α) (r : Request) (s : σ)
    (next : α → Handled σ) : Handled σ :=
  match readBody validate r with
  | .ok a => next a
  | .error (.problem p) => problem p s
  | .error .unreadable => respond Rejection.unreadableResponse s

/-- Goes on with the identifier in the path, if it is one. -/
def withId (path : String) (s : σ) (next : Uuid → Handled σ) : Handled σ :=
  match pathId ((item? path.toList).getD "") with
  | .ok id => next id
  | .error p => problem p s

/-- The configuration is looked at before the parameters. -/
def withListing (config : Except ConfigFault ListConfig) (query : String) (s : σ)
    (next : Listing → Handled σ) : Handled σ :=
  match config with
  | .error fault => { verdict := .unexpected fault.kind, state := s }
  | .ok config =>
    match Listing.ofParams (Form.params query) config with
    | .ok q => next q
    | .error fault => problem fault.problem s

/-- Carries out a request to an endpoint. The body is checked before the path. -/
def carryOut (core : Core σ) (config : Except ConfigFault ListConfig) (r : Request) (s : σ) :
    Endpoint → Handled σ
  | .create => withBody Payload.newProduct r s fun p => create core p s
  | .update =>
    withBody Payload.patch r s fun change =>
      withId r.target.path s fun id => update core id change s
  | .delete => withId r.target.path s fun id => delete core id s
  | .list => withListing config r.target.query s fun q => list core q s
  | .fetch => withId r.target.path s fun id => get core id s

/-- Sends the client to a path that has a route, on the host that it named. -/
def redirect (r : Request) (path : String) (s : σ) : Handled σ :=
  match r.location { r.target with path := path } with
  | .ok location => respond { status := 307, location := some location } s
  | .error fault => { verdict := .unexpected fault.kind, state := s }

/-- Dispatches a request. What no route takes never comes to the service. -/
def withRoute {ε : Type} (routes : List (Route ε)) (r : Request) (s : σ) (next : ε → Handled σ) :
    Handled σ :=
  match dispatch routes r.method r.target.path with
  | .route endpoint => next endpoint
  | .wrongMethod allowed =>
    let allow := ", ".intercalate allowed
    respond { Response.detail 405 "Method Not Allowed" with allow := some allow } s
  | .redirect path => redirect r path s
  | .nowhere => respond (.detail 404 "Not Found") s

def handle (core : Core σ) (config : Except ConfigFault ListConfig) (r : Request) (s : σ) :
    Handled σ :=
  withRoute productRoutes r s (carryOut core config r s)

/-! ## Responses -/

/-- What a client and an observer see of a request. A cancelled one has no response. An unexpected
failure has one if the request can be named in the log, and its kind goes on to the server. -/
structure Exchange (σ : Type) where
  response : Option Response
  failure : Option String := none
  state : σ
  logs : List LogLine := []
  calls : List Operation := []

/-- The response to a problem, if its body can be encoded. -/
def problemResponse (p : Problem) : Except SurrogateRun Response :=
  p.answer.body.map (Response.ofJsonText p.status)

/-- The kind of failure of a response whose body cannot be encoded. -/
def encodingFailure : String := "UnicodeEncodeError"

/-- The response to a failure that no one expected, which looks like that to an internal problem. -/
def unexpectedResponse : Response := .json 500 (Problem.body Problem.internalMessage [])

def unexpectedLine (subject kind : Points) : LogLine :=
  ⟨.error, .problems, subject ++ ": unexpected " ++ kind⟩

/-- Turns the end of a handled request into its response. What goes to the log names the request, so
one without an address has no response to its problem. A problem whose body cannot be encoded ends
as an unexpected failure. -/
def conclude (subject : Except AddressFault Points) (h : Handled σ) : Exchange σ :=
  match h.verdict, subject with
  | .respond r, _ => { response := some r, state := h.state, logs := h.logs, calls := h.calls }
  | .cancelled, _ => { response := none, state := h.state, logs := h.logs, calls := h.calls }
  | .problem p, .ok subject =>
    match problemResponse p with
    | .ok r =>
      { response := some r, state := h.state, logs := h.logs ++ [p.logLine subject],
        calls := h.calls }
    | .error _ =>
      { response := some unexpectedResponse, failure := some encodingFailure, state := h.state,
        logs := h.logs ++ [p.logLine subject, unexpectedLine subject encodingFailure],
        calls := h.calls }
  | .unexpected kind, .ok subject =>
    { response := some unexpectedResponse, failure := some kind, state := h.state,
      logs := h.logs ++ [unexpectedLine subject kind], calls := h.calls }
  | _, .error fault =>
    { response := none, failure := some fault.kind, state := h.state, logs := h.logs,
      calls := h.calls }

def serve (core : Core σ) (config : Except ConfigFault ListConfig) (r : Request) (s : σ) :
    Exchange σ :=
  conclude r.subject (handle core config r s)

/-- Ends every request, on every path, in one way. -/
def serveVerdict (verdict : Verdict) (r : Request) : Exchange Unit :=
  conclude r.subject (withRoute everyRoute r () fun _ => { verdict := verdict, state := () })

end Service

end Stockroom
