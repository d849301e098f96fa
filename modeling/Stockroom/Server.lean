import Stockroom.Address
import Stockroom.Http.Gateway
import Stockroom.Service
import Stockroom.Settings

/-!
# The server

The service over a catalogue, from its start to its end. A start logs the database and makes its
table; the end drops the data, which live in memory. An operation may be disturbed: it
fails, it is cancelled, or the product that it is about is removed right before it.
-/

namespace Stockroom

open Http Service Text

/-- What happens to an operation instead of, or before, its work. -/
inductive Disturbance where
  | failure
  | cancellation
  | removal
  deriving DecidableEq

/-- The fault of an operation that does not come to run. -/
def Disturbance.fault? : Disturbance → Option CoreFault
  | .failure => some (.other "disturbed")
  | .cancellation => some .cancelled
  | .removal => none

namespace Core

variable {σ : Type}

/-- Runs an operation unless its disturbance keeps it from running. -/
def unlessFaulty {α : Type} (d : Option Disturbance) (run : σ → Outcome σ α) (s : σ) :
    Outcome σ α :=
  match d.bind Disturbance.fault? with
  | some fault => { result := .error fault, state := s }
  | none => run s

/-- Removes a product before an operation if that is the disturbance. -/
def afterRemoval {α : Type} (core : Core σ) (d : Option Disturbance) (held : Product)
    (run : σ → Outcome σ α) (s : σ) : Outcome σ α :=
  if d = some .removal then
    let removed := core.delete held s
    match removed.result with
    | .error fault => { result := .error fault, state := removed.state, logs := removed.logs }
    | .ok () =>
      let out := run removed.state
      { out with logs := removed.logs ++ out.logs }
  else run s

/-- The core whose operations are disturbed as planned. -/
def disturbed (plan : Operation → Option Disturbance) (core : Core σ) : Core σ where
  create p := unlessFaulty (plan .create) (core.create p)
  update held change :=
    unlessFaulty (plan .update)
      (afterRemoval core (plan .update) held (core.update held change))
  delete held :=
    unlessFaulty (plan .delete) (afterRemoval core (plan .delete) held (core.delete held))
  query f order page rows := unlessFaulty (plan .query) (core.query f order page rows)
  count f := unlessFaulty (plan .count) (core.count f)
  queryById id := unlessFaulty (plan .queryById) (core.queryById id)

end Core

structure Server where
  settings : Settings
  catalogue : Catalogue
  plan : List (Operation × Disturbance) := []
  /-- How many starts have not come to their end. -/
  started : Nat := 0

namespace Server

/-- Plans a disturbance for an operation, or takes it back. -/
def disturb (op : Operation) (d : Option Disturbance) (s : Server) : Server :=
  let others := s.plan.filter (·.1 != op)
  { s with plan := match d with
    | some d => (op, d) :: others
    | none => others }

def core (src : Sources) (s : Server) : Core Catalogue :=
  (Catalogue.core src).disturbed fun op => s.plan.lookup op

def request (src : Sources) (r : Request) (s : Server) : Exchange Server :=
  let e := serve (s.core src) s.settings.listConfig r s.catalogue
  { e with state := { s with catalogue := e.state } }

/-- A request behind a gateway, which answers it unless it cannot pass it on. -/
def gateway (src : Sources) (r : Request) (s : Server) : Exchange Server :=
  match gatewayRequest? r with
  | none => { response := none, failure := some gatewayFailure, state := s }
  | some r =>
    let e := s.request src r
    { e with response := some (gatewayResponse e.response), failure := none }

/-! ## Start and end -/

def connectedLine (url : Points) : LogLine := ⟨.info, .lifespan, "Connected to database: " ++ url⟩

/-- `cause` is what the driver says of a database that it cannot reach. -/
def unreachableLine (cause : Points) : LogLine :=
  ⟨.warning, .lifespan, "Database connection failed: " ++ cause⟩

/-- Makes the table if it is not there. One that is there keeps its rows. -/
def withTable (c : Catalogue) : Catalogue :=
  match c.table with
  | .missing => { c with table := .ready {} }
  | _ => c

/-- Starts the server. A database that cannot be reached is logged only; an address that cannot be
split keeps the server from starting. -/
def start (cause : Points) (s : Server) : Except Address.Fault (Server × List LogLine) :=
  match s.catalogue.table with
  | .unreachable => .ok ({ s with started := s.started + 1 }, [unreachableLine cause])
  | _ =>
    (Address.mask s.settings.databaseUrl).map fun url =>
      ({ s with started := s.started + 1, catalogue := withTable s.catalogue }, [connectedLine url])

/-- Drops the table with all of its rows. -/
def withoutTable (c : Catalogue) : Catalogue :=
  match c.table with
  | .ready _ => { c with table := .missing }
  | _ => c

/-- Ends a server. An end without a start does nothing. -/
def stop (s : Server) : Server :=
  if s.started = 0 then s
  else { s with started := s.started - 1, catalogue := withoutTable s.catalogue }

/-- Puts a product into the catalogue behind the back of the service. -/
def seed (src : Sources) (p : NewProduct) (s : Server) : Outcome Server StoredProduct :=
  let out := Catalogue.create src p s.catalogue
  { result := out.result, state := { s with catalogue := out.state }, logs := out.logs }

end Server

end Stockroom
