import Stockroom.Http.Message
import Stockroom.Json.Reader
import Stockroom.Payload
import Stockroom.Text.Encoding

/-!
# Request bodies

A body is JSON if its content type says so. What is no JSON text of an object cannot be decoded.
What is no text in a Unicode encoding, or is too large or too deep, is rejected before anyone reads
it.
-/

namespace Stockroom.Http

open Text

/-- How deep arrays and objects of a body may stand in one another. It stands in for the recursion
limit of the interpreter, of which a request finds a part used up already. How much that is depends
on the server, so that a deep body may be read under one server and be rejected under another. -/
def bodyDepth : Nat := 900

def hasSuffix (suffix s : List Char) : Bool := suffix.reverse.isPrefixOf s.reverse

/-- The content type `application/json`, or one that ends in `+json`, with any parameters. -/
def isJsonType (contentType : String) : Bool :=
  let kind := (trim isSpace (splitFirst (· == ';') contentType.toList).1).map Char.toLower
  match kind.splitOn '/' with
  | [main, sub] =>
    main == "application".toList && (sub == "json".toList || hasSuffix "+json".toList sub)
  | _ => false

/-- Why there is no payload: a problem of the service, or a body that the server cannot read at all.
-/
inductive Rejection where
  | problem (p : Problem)
  | unreadable

/-- The payload of a request. An empty body, or one of another type, is not looked at. -/
def readBody {α : Type} (validate : Json → Except (List Payload.Issue) α) (r : Request) :
    Except Rejection α :=
  if r.body.isEmpty || !(r.header? "content-type").any isJsonType then
    .error (.problem .undecodable)
  else
    match decodeText? r.body with
    | none => .error .unreadable
    | some text =>
      match Json.read bodyDepth text with
      | .error .malformed => .error (.problem .undecodable)
      | .error .beyondLimits => .error .unreadable
      | .ok j =>
        match validate j with
        | .ok a => .ok a
        | .error issues => .error (.problem (.classify (issues.map Payload.Issue.record)))

/-- The response that the server gives by itself, which does not have the form of a problem. -/
def Rejection.unreadableResponse : Response := .detail 400 "There was an error parsing the body"

end Stockroom.Http
