import Stockroom.Http.Message

/-!
# Routes

A route leads requests of some methods from a kind of path to an endpoint. The service has five
routes on two kinds of path: the collection and one item of it. A path that no route has may have
one with a slash more or less at its end, and is then redirected.
-/

namespace Stockroom.Http

/-- What the service can be asked to do. -/
inductive Endpoint where
  | create
  | update
  | delete
  | list
  | fetch
  deriving DecidableEq

inductive Place where
  | collection
  | item
  | anywhere
  deriving DecidableEq

/-- The methods for which a kind of path leads to an endpoint. -/
structure Route (ε : Type) where
  methods : List String
  place : Place
  endpoint : ε
  deriving DecidableEq

/-- The routes of the service in the order in which they are tried. -/
def productRoutes : List (Route Endpoint) :=
  [⟨["POST"], .collection, .create⟩, ⟨["PUT"], .item, .update⟩, ⟨["DELETE"], .item, .delete⟩,
    ⟨["GET"], .collection, .list⟩, ⟨["GET"], .item, .fetch⟩]

/-- A single route for all paths. -/
def everyRoute : List (Route Unit) := [⟨["DELETE", "GET", "POST", "PUT"], .anywhere, ()⟩]

/-! ## Paths -/

def collectionPath : List Char := "/products/".toList

/-- The item that a path names: one segment behind the path of the collection. -/
def item? (path : List Char) : Option String :=
  let segment := path.drop collectionPath.length
  if collectionPath.isPrefixOf path && !segment.isEmpty && !segment.contains '/' then
    some (String.ofList segment)
  else none

/-- The path without the one line break that may end it. -/
def withoutBreak (path : List Char) : List Char :=
  if path.getLast? == some '\n' then path.dropLast else path

/-- Whether a path is at a place. A line break may follow the path of the collection, and stands in
no path but at its end. -/
def Place.has (path : List Char) : Place → Bool
  | .collection => withoutBreak path == collectionPath
  | .item => (item? path).isSome
  | .anywhere => path.head? == some '/' && !(withoutBreak path).contains '\n'

/-! ## Dispatch -/

variable {ε : Type}

def routesOf (routes : List (Route ε)) (path : List Char) : List (Route ε) :=
  routes.filter (·.place.has path)

/-- The path with a slash at its end, or without the slashes there. -/
def otherPath (path : List Char) : List Char :=
  if path.getLast? == some '/' then (path.reverse.dropWhile (· == '/')).reverse else path ++ ['/']

inductive Dispatch (ε : Type) where
  | route (endpoint : ε)
  | wrongMethod (allowed : List String)
  | redirect (path : String)
  | nowhere
  deriving DecidableEq

/-- Where a request goes. Of a path with other methods only, those of the first route are
allowed. -/
def dispatch (routes : List (Route ε)) (method path : String) : Dispatch ε :=
  let here := routesOf routes path.toList
  let other := otherPath path.toList
  match here.find? (·.methods.contains method), here with
  | some route, _ => .route route.endpoint
  | none, first :: _ => .wrongMethod first.methods
  | none, [] =>
    if path ≠ "/" ∧ !(routesOf routes other).isEmpty then .redirect (String.ofList other)
    else .nowhere

end Stockroom.Http
