import Stockroom.Http.Percent
import Stockroom.Json.Writer
import Stockroom.Text.Split

/-!
# Requests and responses

The path of a request is decoded, its query string is not. A header counts under its exact name, the
first of two with one name. A response has a status and a text, and the three headers that a client
acts upon.
-/

namespace Stockroom.Http

open Text

structure Target where
  path : String
  query : String
  deriving DecidableEq

/-- A target ends its path at the first question mark. -/
def Target.ofText (s : String) : Target :=
  let (path, query) := splitFirst (· == '?') s.toList
  ⟨String.ofList (Percent.decode path), String.ofList (query.getD [])⟩

/-- Where a server takes requests. -/
structure Socket where
  name : String
  number : Int
  deriving DecidableEq

/-- A request as the server takes it from a connection. -/
structure Request where
  scheme : String := "http"
  server : Socket
  method : String
  target : Target
  headers : List (String × String) := []
  body : Bytes := []
  deriving DecidableEq

def Request.header? (r : Request) (name : String) : Option String := r.headers.lookup name

/-- A response as the client sees it. -/
structure Response where
  status : Nat
  contentType : Option String := none
  allow : Option String := none
  location : Option String := none
  body : String := ""
  deriving DecidableEq

def jsonType : String := "application/json"

/-- A response whose body is the text of a value. -/
def Response.ofJsonText (status : Nat) (text : String) : Response :=
  { status := status, contentType := some jsonType, body := text }

def Response.json (status : Nat) (j : Json) : Response := .ofJsonText status j.write

/-- A response of the dispatcher, which the service never sees. -/
def Response.detail (status : Nat) (text : String) : Response :=
  .json status (.fields [("detail", .text text)])

/-- The response to a deletion, which has no body and no content type. -/
def Response.noContent : Response := { status := 204 }

end Stockroom.Http
