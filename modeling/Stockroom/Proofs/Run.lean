import Stockroom.Catalogue

/-!
# Runs of a core

A call is one operation of a core with its arguments. A run is a list of calls, each on the state
that the one before it left, whether it failed or not.
-/

namespace Stockroom

/-! ## Calls -/

inductive Call where
  | create (p : NewProduct)
  | update (held : Product) (change : Patch)
  | delete (held : Product)
  | query (f : Filter) (order : OrderBy) (page rows : Int)
  | count (f : Filter)
  | queryById (id : Uuid)

/-- What a call that succeeds gives to its caller. -/
inductive Answer where
  | product (p : StoredProduct)
  | page (ps : List StoredProduct)
  | total (n : Nat)
  | done

def Answer.products : Answer → List StoredProduct
  | .product p => [p]
  | .page ps => ps
  | .total _ => []
  | .done => []

def Outcome.map {σ α β : Type} (f : α → β) (o : Outcome σ α) : Outcome σ β :=
  { result := o.result.map f, state := o.state, logs := o.logs }

namespace Call

variable {σ : Type}

def run (core : Core σ) (s : σ) : Call → Outcome σ Answer
  | create p => (core.create p s).map .product
  | update held change => (core.update held change s).map .product
  | delete held => (core.delete held s).map fun _ => .done
  | query f order page rows => (core.query f order page rows s).map .page
  | count f => (core.count f s).map .total
  | queryById id => (core.queryById id s).map .product

/-- The products that a call gives to its caller. One that fails gives none. -/
def given (core : Core σ) (s : σ) (call : Call) : List StoredProduct :=
  match (call.run core s).result with
  | .ok answer => answer.products
  | .error _ => []

theorem exists_of_mem_given {α : Type} {core : Core σ} {s : σ} {call : Call} {out : Outcome σ α}
    {f : α → Answer} (hrun : call.run core s = out.map f) {p : StoredProduct}
    (hp : p ∈ call.given core s) : ∃ a, out.result = .ok a ∧ p ∈ (f a).products := by
  rw [given, hrun, Outcome.map] at hp
  cases hout : out.result with
  | error fault =>
    rw [hout] at hp
    cases hp
  | ok a =>
    rw [hout] at hp
    exact ⟨a, rfl, hp⟩

theorem mem_given_update_iff {core : Core σ} {s : σ} {held : Product} {p : StoredProduct}
    {change : Patch} :
    p ∈ (update held change).given core s ↔ (core.update held change s).result = .ok p := by
  constructor
  · intro h
    obtain ⟨q, hq, hp⟩ := exists_of_mem_given rfl h
    rw [List.mem_singleton.1 hp, hq]
  · intro h
    simp [given, run, Outcome.map, h, Except.map, Answer.products]

/-- Whether a call is to change or to remove the product with an id. -/
def IsAbout (id : Uuid) : Call → Prop
  | update held _ => held.id = id
  | delete held => held.id = id
  | _ => False

end Call

def Core.after {σ : Type} (core : Core σ) (calls : List Call) (s : σ) : σ :=
  calls.foldl (fun s call => (call.run core s).state) s

namespace Core

variable {σ : Type} (core : Core σ)

@[simp] theorem after_cons (call : Call) (calls : List Call) (s : σ) :
    core.after (call :: calls) s = core.after calls (call.run core s).state := rfl

@[simp] theorem after_append (calls more : List Call) (s : σ) :
    core.after (calls ++ more) s = core.after more (core.after calls s) :=
  List.foldl_append

/-- What every call keeps, every run keeps. -/
theorem after_induction {P : σ → Prop} (hstep : ∀ (call : Call) s, P s → P (call.run core s).state)
    (calls : List Call) {s : σ} (hs : P s) : P (core.after calls s) := by
  induction calls generalizing s with
  | nil => exact hs
  | cons call calls ih => exact ih (hstep call s hs)

end Core

/-! ## Sources -/

/-- Ids in the order of their numbers, and a clock that ticks for a minute and then stands still. -/
def Sources.counting : Sources where
  ids n := ⟨BitVec.ofNat 128 (0x40008000000000000000 + n)⟩
  clock k := ⟨2024, 1, 1, 0, 0, min k 59, 0⟩

def Sources.Monotone (src : Sources) : Prop :=
  ∀ i j, i ≤ j → (src.clock i).le (src.clock j) = true

theorem Sources.monotone_counting : Sources.counting.Monotone := by
  intro i j hij
  rw [Timestamp.le, decide_eq_true_eq]
  simp only [Sources.counting, Timestamp.key]
  omega

end Stockroom
