import Stockroom.Proofs.Payload
import Stockroom.Proofs.Uuid
import Stockroom.Service

/-!
# Requests and their endpoints

What a request asks for, if its method, its path and its body are good. Every path that has an
endpoint begins with a slash. In any spelling, an identifier leads to the endpoints of its item.
-/

namespace Stockroom.Http

open Text

/-! ## Bodies -/

theorem exists_of_readBody {α : Type} {validate : Json → Except (List Payload.Issue) α}
    {r : Request} {a : α} (h : readBody validate r = .ok a) : ∃ j, validate j = .ok a := by
  unfold readBody at h
  split at h
  · cases h
  split at h
  · cases h
  split at h
  · cases h
  · cases h
  · next j _ =>
    cases hj : validate j with
    | ok b =>
      simp only [hj, Except.ok.injEq] at h
      exact ⟨j, h ▸ hj⟩
    | error issues => simp [hj] at h

theorem status_of_readBody {α : Type} {validate : Json → Except (List Payload.Issue) α}
    {r : Request} {p : Problem} (h : readBody validate r = .error (.problem p)) :
    p.status = 400 := by
  unfold readBody at h
  split at h
  · cases h
    rfl
  split at h
  · cases h
  split at h
  · cases h
    rfl
  · cases h
  split at h
  · cases h
  · cases h
    unfold Problem.classify
    split <;> rfl

theorem exists_body_of_readBody {α : Type} {validate : Json → Except (List Payload.Issue) α}
    (hvalidate : ∀ j is, validate j = .error is → ∀ i ∈ is, i.IsNamed) {r : Request} {p : Problem}
    (h : readBody validate r = .error (.problem p)) : ∃ text, p.answer.body = .ok text := by
  have hundecodable : ∃ text, Problem.undecodable.answer.body = .ok text :=
    Problem.exists_body (isClean_points _) fun _ hf => absurd hf List.not_mem_nil
  unfold readBody at h
  split at h
  · cases h
    exact hundecodable
  split at h
  · cases h
  split at h
  · cases h
    exact hundecodable
  · cases h
  split at h
  · cases h
  · next is his =>
    cases h
    refine Problem.exists_body_classify fun record hrecord => ?_
    obtain ⟨i, hi, rfl⟩ := List.mem_map.1 hrecord
    exact (hvalidate _ _ his i hi).isClean_record

/-! ## Endpoints -/

/-- The endpoint that a request is for. -/
def Request.Reaches (r : Request) (endpoint : Endpoint) : Prop :=
  dispatch productRoutes r.method r.target.path = .route endpoint

instance (r : Request) (endpoint : Endpoint) : Decidable (r.Reaches endpoint) :=
  inferInstanceAs (Decidable (dispatch productRoutes r.method r.target.path = .route endpoint))

/-- A request to create a product, with a valid payload. -/
structure Request.Posts (r : Request) (p : NewProduct) : Prop where
  reaches : r.Reaches .create
  body : readBody Payload.newProduct r = .ok p

/-- A request to update the product with an id, with a valid payload. -/
structure Request.Puts (r : Request) (id : Uuid) (change : Patch) : Prop where
  reaches : r.Reaches .update
  item : Service.pathId ((item? r.target.path.toList).getD "") = .ok id
  body : readBody Payload.patch r = .ok change

/-! ## Paths -/

theorem head?_withoutBreak {path : List Char} {c : Char}
    (h : (withoutBreak path).head? = some c) : path.head? = some c := by
  unfold withoutBreak at h
  split at h
  · rw [List.head?_dropLast] at h
    split at h
    · exact h
    · cases h
  · exact h

theorem head?_of_place {path : List Char} {place : Place} (h : place.has path = true) :
    path.head? = some '/' := by
  cases place with
  | collection =>
    rw [Place.has, beq_iff_eq] at h
    exact head?_withoutBreak (h ▸ rfl)
  | item =>
    rw [Place.has, item?] at h
    split at h
    · next hitem =>
      simp only [Bool.and_eq_true] at hitem
      obtain ⟨segment, rfl⟩ := List.isPrefixOf_iff_prefix.1 hitem.1.1
      rfl
    · cases h
  | anywhere =>
    rw [Place.has, Bool.and_eq_true, beq_iff_eq] at h
    exact h.1

theorem exists_route {ε : Type} {routes : List (Route ε)} {method path : String} {endpoint : ε}
    (h : dispatch routes method path = .route endpoint) :
    ∃ route ∈ routes, route.place.has path.toList = true ∧ route.endpoint = endpoint := by
  unfold dispatch at h
  dsimp only at h
  cases hfind : (routesOf routes path.toList).find? (·.methods.contains method) with
  | some route =>
    rw [hfind] at h
    cases h
    have hmem := List.mem_of_find?_eq_some hfind
    rw [routesOf, List.mem_filter] at hmem
    exact ⟨route, hmem.1, hmem.2, rfl⟩
  | none =>
    rw [hfind] at h
    cases hhere : routesOf routes path.toList with
    | nil =>
      rw [hhere] at h
      dsimp only at h
      split at h <;> cases h
    | cons first rest =>
      rw [hhere] at h
      cases h

theorem Request.Reaches.head?_path {r : Request} {endpoint : Endpoint} (h : r.Reaches endpoint) :
    r.target.path.toList.head? = some '/' := by
  obtain ⟨route, -, hplace, -⟩ := exists_route h
  exact head?_of_place hplace

/-! ## Items -/

/-- The endpoint of each method of an item. -/
def itemEndpoints : List (String × Endpoint) :=
  [("PUT", .update), ("DELETE", .delete), ("GET", .fetch)]

/-- A request of some method for the item that an id names, in any spelling of the id. -/
structure Request.IsFor (r : Request) (method : String) (id : Uuid) : Prop where
  method : r.method = method
  path : ∃ spelling, r.target.path = "/products/" ++ spelling ∧ Uuid.ofText? spelling = some id

theorem item?_of_spelling {spelling : String} {id : Uuid} (h : Uuid.ofText? spelling = some id) :
    item? (collectionPath ++ spelling.toList) = some spelling := by
  unfold Uuid.ofText? at h
  have hslash : '/' ∉ spelling.toList := by
    intro hin
    rw [Uuid.ofChars?_of_slash_mem hin] at h
    cases h
  have hne : spelling.toList ≠ [] := by
    intro hnil
    have hempty : Uuid.ofChars? [] = none := by decide
    rw [hnil, hempty] at h
    cases h
  unfold item?
  simp [hslash, hne]

/-- A path with an identifier is not that of the collection, which only a line break may follow. -/
theorem not_collection_of_spelling {spelling : String} {id : Uuid}
    (h : Uuid.ofText? spelling = some id) :
    Place.collection.has (collectionPath ++ spelling.toList) = false := by
  unfold Uuid.ofText? at h
  unfold Place.has
  rw [beq_eq_false_iff_ne]
  intro heq
  have hshort : spelling.toList = [] ∨ spelling.toList = ['\n'] := by
    unfold withoutBreak at heq
    split at heq
    · next hbreak =>
      match hchars : spelling.toList with
      | [] => exact Or.inl rfl
      | [c] =>
        rw [hchars] at hbreak
        simp at hbreak
        exact Or.inr (by rw [hbreak])
      | a :: b :: rest =>
        have hlength := congrArg List.length heq
        rw [hchars] at hlength
        simp at hlength
    · exact Or.inl (by simpa using heq)
  have hnone : Uuid.ofChars? spelling.toList = none := by
    rcases hshort with hchars | hchars <;> rw [hchars] <;> decide
  rw [hnone] at h
  cases h

theorem Request.IsFor.exists_spelling {r : Request} {method : String} {id : Uuid}
    (h : r.IsFor method id) : ∃ spelling : String, Uuid.ofText? spelling = some id ∧
      r.target.path.toList = collectionPath ++ spelling.toList := by
  obtain ⟨-, spelling, hpath, hid⟩ := h
  refine ⟨spelling, hid, ?_⟩
  rw [hpath, String.toList_append]
  rfl

theorem Request.IsFor.reaches {r : Request} {method : String} {id : Uuid} {endpoint : Endpoint}
    (h : r.IsFor method id) (hendpoint : (method, endpoint) ∈ itemEndpoints) :
    r.Reaches endpoint := by
  obtain ⟨spelling, hid, hpath⟩ := h.exists_spelling
  obtain ⟨rfl, -⟩ := h
  have hcollection := not_collection_of_spelling hid
  have hitem : Place.item.has (collectionPath ++ spelling.toList) = true := by
    unfold Place.has
    rw [item?_of_spelling hid]
    rfl
  have hroutes : routesOf productRoutes r.target.path.toList =
      [⟨["PUT"], .item, .update⟩, ⟨["DELETE"], .item, .delete⟩, ⟨["GET"], .item, .fetch⟩] := by
    rw [hpath]
    simp [routesOf, productRoutes, hcollection, hitem]
  unfold Reaches dispatch
  rw [hroutes]
  simp only [itemEndpoints, List.mem_cons, Prod.mk.injEq, List.not_mem_nil, or_false] at hendpoint
  rcases hendpoint with ⟨hmethod, rfl⟩ | ⟨hmethod, rfl⟩ | ⟨hmethod, rfl⟩ <;> rw [hmethod] <;> rfl

theorem Request.IsFor.pathId_ok {r : Request} {method : String} {id : Uuid}
    (h : r.IsFor method id) :
    Service.pathId ((item? r.target.path.toList).getD "") = .ok id := by
  obtain ⟨spelling, hid, hpath⟩ := h.exists_spelling
  have hpoints : Uuid.ofPoints? (points spelling) = some id := by
    unfold Uuid.ofPoints?
    rw [readPoints?_points]
    exact hid
  unfold Service.pathId
  rw [hpath, item?_of_spelling hid, Option.getD_some, hpoints]

end Stockroom.Http
