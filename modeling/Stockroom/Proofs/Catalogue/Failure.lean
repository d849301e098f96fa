import Stockroom.Proofs.Catalogue
import Stockroom.Proofs.Listing

/-!
# Calls that fail

A call that fails leaves the table as it is. What it has drawn from the sources is gone, so every
later call does what it would have done without it, under sources that begin a little later.
-/

namespace Stockroom

open Number Text

/-- The sources without their first ids and times. -/
def Sources.skip (src : Sources) (ids ticks : Nat) : Sources :=
  ⟨fun n => src.ids (n + ids), fun k => src.clock (k + ticks)⟩

def Call.idsDrawn : Call → Nat
  | create _ => 1
  | _ => 0

def Call.ticksDrawn : Call → Nat
  | create _ => 1
  | update _ _ => 1
  | _ => 0

/-- What the caller and the log see of each call of a run. -/
def Core.trace {σ : Type} (core : Core σ) :
    List Call → σ → List (Except CoreFault Answer × List LogLine)
  | [], _ => []
  | call :: calls, s =>
    let out := call.run core s
    (out.result, out.logs) :: core.trace calls out.state

/-- The same table, with more of the sources used up. -/
def Catalogue.advance (c : Catalogue) (ids ticks : Nat) : Catalogue :=
  { c with idsUsed := c.idsUsed + ids, ticks := c.ticks + ticks }

def Outcome.advance {α : Type} (out : Outcome Catalogue α) (ids ticks : Nat) :
    Outcome Catalogue α :=
  { out with state := out.state.advance ids ticks }

namespace Catalogue

variable {src : Sources} {c : Catalogue} {call : Call}

/-! ## What a failure leaves -/

theorem create_state_of_error {p : NewProduct} {fault : CoreFault} (hc : c.WellFormed)
    (h : (create src p c).result = .error fault) : (create src p c).state = c.advance 1 1 := by
  obtain ⟨s, n, k, rfl, -⟩ := hc.exists_ready
  rcases create_cases src p s n k with ⟨row, t, hrow, hins, heq⟩ | ⟨_, -, heq⟩
  · -- The row that is written is that of a product, so this call does not fail.
    have hwf := wellFormed_of_newRow hrow (Store.insert_eq_ok_iff.1 hins).1
    obtain ⟨made, hmade⟩ := hwf.exists_product
    rw [heq, hwf.product_eq_ok_iff.2 hmade] at h
    cases h
  · rw [heq]
    rfl

theorem update_state_of_error {held : Product} {change : Patch} {fault : CoreFault}
    (hc : c.WellFormed) (h : (update src held change c).result = .error fault) :
    (update src held change c).state = c.advance 0 1 := by
  obtain ⟨s, n, k, rfl, hs⟩ := hc.exists_ready
  rcases update_cases src held change s n k with
    ⟨-, heq⟩ | ⟨old, row, t, hold, hrow, hrep, heq⟩ | ⟨_, _, -, -, heq⟩
  · rw [heq]
    rfl
  · have hwf := wellFormed_of_changedRow hrow (hs.rows old (Store.mem_of_find? hold))
      (Store.replace_eq_ok_iff.1 hrep).1
    obtain ⟨changed, hchanged⟩ := hwf.exists_product
    rw [heq, hwf.product_eq_ok_iff.2 hchanged] at h
    cases h
  · rw [heq]
    rfl

theorem delete_ne_error {held : Product} {fault : CoreFault} (hc : c.WellFormed) :
    (delete held c).result ≠ .error fault := by
  obtain ⟨s, n, k, rfl, -⟩ := hc.exists_ready
  rcases delete_cases held s n k with ⟨-, heq⟩ | ⟨-, heq⟩ <;> rw [heq] <;> rintro ⟨⟩

theorem state_of_error (hc : c.WellFormed) {fault : CoreFault}
    (h : (call.run (core src) c).result = .error fault) :
    (call.run (core src) c).state = c.advance call.idsDrawn call.ticksDrawn := by
  cases call with
  | create p => exact create_state_of_error hc (error_of_map_eq_error h)
  | update held change => exact update_state_of_error hc (error_of_map_eq_error h)
  | delete held => exact absurd (error_of_map_eq_error h) (delete_ne_error hc)
  | query f order page rows => exact query_state f order page rows c
  | count f => rfl
  | queryById id => exact queryById_state id c

/-! ## What comes after -/

section

variable (src c) (ids ticks : Nat)

theorem create_advance (p : NewProduct) :
    create src p (c.advance ids ticks) =
      (create (src.skip ids ticks) p c).advance ids ticks := by
  unfold create
  dsimp only [advance, Sources.skip]
  split <;> simp [Outcome.advance, advance, Nat.add_right_comm]

theorem update_advance (held : Product) (change : Patch) :
    update src held change (c.advance ids ticks) =
      (update (src.skip ids ticks) held change c).advance ids ticks := by
  unfold update
  dsimp only [advance, Sources.skip]
  split
  · simp [Outcome.advance, advance, Nat.add_right_comm]
  · split
    · simp [Outcome.advance, advance, Nat.add_right_comm]
    · split <;> simp [Outcome.advance, advance, Nat.add_right_comm]

theorem delete_advance (held : Product) :
    delete held (c.advance ids ticks) = (delete held c).advance ids ticks := by
  unfold delete
  dsimp only [advance]
  split
  · rfl
  · split <;> rfl

theorem query_advance (f : Filter) (order : OrderBy) (page rows : Int) :
    query f order page rows (c.advance ids ticks) =
      (query f order page rows c).advance ids ticks := by
  unfold query
  split <;> rfl

theorem queryById_advance (id : Uuid) :
    queryById id (c.advance ids ticks) = (queryById id c).advance ids ticks := by
  unfold queryById
  dsimp only [advance]
  split
  · rfl
  · split <;> rfl

/-- A call on sources that are used up further is one on sources that begin later. -/
theorem run_advance (call : Call) :
    call.run (core src) (c.advance ids ticks) =
      (call.run (core (src.skip ids ticks)) c).advance ids ticks := by
  cases call with
  | create p =>
    exact congrArg (Outcome.map Answer.product) (create_advance src c ids ticks p)
  | update held change =>
    exact congrArg (Outcome.map Answer.product) (update_advance src c ids ticks held change)
  | delete held =>
    exact congrArg (Outcome.map fun _ => Answer.done) (delete_advance c ids ticks held)
  | query f order page rows =>
    exact congrArg (Outcome.map Answer.page) (query_advance c ids ticks f order page rows)
  | count f => rfl
  | queryById id => exact congrArg (Outcome.map Answer.product) (queryById_advance c ids ticks id)

theorem trace_advance (calls : List Call) :
    (core src).trace calls (c.advance ids ticks) =
      (core (src.skip ids ticks)).trace calls c := by
  induction calls generalizing c with
  | nil => rw [Core.trace, Core.trace]
  | cons call calls ih =>
    rw [Core.trace, Core.trace, run_advance]
    exact congrArg _ (ih _)

theorem after_advance (calls : List Call) :
    (core src).after calls (c.advance ids ticks) =
      ((core (src.skip ids ticks)).after calls c).advance ids ticks := by
  induction calls generalizing c with
  | nil => rfl
  | cons call calls ih =>
    rw [Core.after_cons, Core.after_cons, run_advance]
    exact ih _

end

/-- A call that fails leaves the table as it is. Whatever is called later comes to what it would
have come to without that call, but for the ids and times that the call has drawn. -/
theorem failure_changes_nothing (src : Sources) (calls : List Call) (call : Call)
    {fault : CoreFault}
    (h : (call.run (core src) ((core src).after calls {})).result = .error fault) :
    let c := (core src).after calls {}
    let left := (call.run (core src) c).state
    let src' := src.skip call.idsDrawn call.ticksDrawn
    left.table = c.table ∧
      ∀ later, (core src).trace later left = (core src').trace later c ∧
        ((core src).after later left).table = ((core src').after later c).table := by
  intro c left src'
  have hleft : left = c.advance call.idsDrawn call.ticksDrawn :=
    state_of_error (wellFormed_after src calls) h
  rw [hleft]
  refine ⟨rfl, fun later => ⟨trace_advance src c _ _ later, ?_⟩⟩
  rw [after_advance]
  rfl

theorem second_apple_refused :
    let src : Sources := { Sources.counting with ids := fun _ => ⟨0⟩ }
    let made : Call := .create ⟨"apple", .ofInt 1, 3, ⟨7⟩⟩
    let c := (core src).after [made] {}
    let left := (made.run (core src) c).state
    let src' := src.skip made.idsDrawn made.ticksDrawn
    ∃ fault, (made.run (core src) c).result = .error fault ∧ left.ticks = 2 ∧
      left.table = c.table ∧ ∀ later, (core src).trace later left = (core src').trace later c ∧
        ((core src).after later left).table = ((core src').after later c).table := by
  intro src made c left src'
  have hnone : (made.run (core src) c).result.toOption.isNone = true := by decide
  cases h : (made.run (core src) c).result with
  | error fault =>
    obtain ⟨htable, hlater⟩ := failure_changes_nothing src [made] made h
    have hticks : left.ticks = 2 := by decide
    dsimp only [left, c, src'] at hticks ⊢
    exact ⟨fault, rfl, hticks, htable, hlater⟩
  | ok answer =>
    rw [h] at hnone
    cases hnone

end Catalogue

end Stockroom
