import Stockroom.Http.Origin
import Stockroom.Problem

/-!
# Requests behind a gateway

A gateway takes a request from a client and passes it on. It decodes the path once more, names the
headers in lower case, and says in headers of its own how the client reached it. Without such
headers the client came over a secure line.
-/

namespace Stockroom.Http

open Number Text

/-- The headers under names in lower case. Of two with one name the later counts. -/
def gatewayHeaders (headers : List (String × String)) : List (String × String) :=
  (headers.map fun h => (h.1.toLower, h.2)).reverse

/-- The name of a gateway that the client does not name. -/
def gatewayName : String := "mangum"

/-- The number of a gateway if neither the client nor a header names one. -/
def gatewayNumber : Int := 80

/-- Where the gateway took a request: at the host that the client names, and at the number behind
it or else the one that was forwarded. -/
def gatewaySocket? (headers : List (String × String)) : Option Socket :=
  match ((headers.lookup "host").getD gatewayName).toList.splitOn ':' with
  | [name] =>
    match headers.lookup "x-forwarded-port" with
    | none => some ⟨String.ofList name, gatewayNumber⟩
    | some number => (integerOfText? number.toList).map (⟨String.ofList name, ·⟩)
  | [name, number] => (integerOfText? number).map (⟨String.ofList name, ·⟩)
  | _ => none

/-- The request that a gateway passes on. The bytes of a header are read as characters. -/
def gatewayRequest? (r : Request) : Option Request :=
  let headers := gatewayHeaders r.headers
  (gatewaySocket? headers).map fun socket =>
    { r with
      scheme := (headers.lookup "x-forwarded-proto").getD "https"
      server := socket
      target := { r.target with path := String.ofList (Percent.decode r.target.path.toList) }
      headers := headers.map fun h => (h.1, Percent.byteText h.2) }

/-- The kind of failure of a gateway that cannot tell where it took a request. -/
def gatewayFailure : String := "ValueError"

/-- A gateway names a content type where there is none, and answers for a service that does not. -/
def gatewayResponse : Option Response → Response
  | some r => { r with contentType := some (r.contentType.getD jsonType) }
  | none =>
    { status := 500, contentType := some "text/plain; charset=utf-8",
      body := Problem.internalMessage }

end Stockroom.Http
