import Stockroom.Proofs.Catalogue

/-!
# Patches of products that callers hold

An update fills the fields that its patch leaves from the product that the caller holds, not from
the row. So it keeps these fields exactly if the product still shows them as they stand in the row,
which it does as long as no one has changed or removed the row since. If someone has, the update
writes the old values back.
-/

namespace Stockroom

open Number Text

namespace Row

/-- Every field that a patch sets has the value of the patch, as columns keep it. -/
structure Takes (new : Row) (change : Patch) : Prop where
  name : ∀ text, change.name = some text → storedText text = .ok new.name
  cost : ∀ x, change.cost = some x → new.cost = x.stored
  quantity : ∀ n, change.quantity = some n → new.quantity = n

/-- Every field that a patch leaves has the value that it had. -/
structure Keeps (new : Row) (change : Patch) (old : Row) : Prop where
  name : change.name = none → new.name = old.name
  cost : change.cost = none → new.cost = old.cost
  quantity : change.quantity = none → new.quantity = old.quantity

theorem Keeps.refl (r : Row) (change : Patch) : r.Keeps change r :=
  ⟨fun _ => rfl, fun _ => rfl, fun _ => rfl⟩

end Row

namespace Catalogue

variable {src : Sources} {c : Catalogue} {held q : StoredProduct} {change : Patch}

theorem cost_stored_of_mem_given {call : Call} (hc : c.WellFormed)
    (hheld : held ∈ call.given (core src) c) : held.cost.stored = held.cost := by
  have hwf := wellFormed_run src call hc
  obtain ⟨s, n, k, hready, hfind⟩ := exists_ready_of_row? (row?_of_mem_given hc hheld)
  rw [hready] at hwf
  exact (hwf.rows held.row (Store.mem_of_find? hfind)).cost_stored

theorem row_of_update_ok (hc : c.WellFormed) (hcost : held.cost.stored = held.cost)
    (hok : (update src held change c).result = .ok q) :
    ∃ old, c.row? held.id = some old ∧
      (update src held change c).state.row? held.id = some q.row ∧
      q.row.Takes change ∧ q.row.Keeps change held.row := by
  obtain ⟨old, name, hold, hname, hq, -, hnew⟩ := update_ok hc hok
  refine ⟨old, hold, hnew, ⟨?_, ?_, ?_⟩, ⟨?_, ?_, ?_⟩⟩
  · intro text htext
    simp only [NewProduct.patch, htext, Option.getD_some] at hname
    rw [hname, hq]
  · intro x hx
    simp only [hq, NewProduct.patch, hx, Option.getD_some]
  · intro n hn
    simp only [hq, NewProduct.patch, hn, Option.getD_some]
  · intro hnone
    simp only [NewProduct.patch, hnone, Option.getD_none,
      StoredProduct.toProduct_data, StoredProduct.data] at hname
    rw [storedText_points, Except.ok.injEq] at hname
    rw [hq, ← hname]
    rfl
  · intro hnone
    simp only [hq, NewProduct.patch, hnone, Option.getD_none,
      StoredProduct.toProduct_data, StoredProduct.data, hcost]
    rfl
  · intro hnone
    simp only [hq, NewProduct.patch, hnone, Option.getD_none,
      StoredProduct.toProduct_data, StoredProduct.data]
    rfl

/-! ## Updates in a run -/

/-- Of an update that succeeds with a product from an earlier call, the row takes what the patch
sets. It keeps what the patch leaves exactly if the product shows it as it stands in the row, and
this is so if no call in between was about the product. -/
theorem update_keeps_iff_held_keeps (before later : List Call) (call : Call)
    (hheld : held ∈ call.given (core src) ((core src).after before {}))
    (hok : (update src held change ((core src).after (before ++ call :: later) {})).result =
      .ok q) :
    let c := (core src).after (before ++ call :: later) {}
    ∃ old new, c.row? held.id = some old ∧
      (update src held change c).state.row? held.id = some new ∧ new.Takes change ∧
      (new.Keeps change old ↔ held.row.Keeps change old) ∧
      ((∀ other ∈ later, ¬ other.IsAbout held.id) → new.Keeps change old) := by
  intro c
  have hbefore := wellFormed_after src before
  have hwf : c.WellFormed := wellFormed_after src _
  obtain ⟨old, hold, hnew, htakes, hkeeps⟩ :=
    row_of_update_ok hwf (cost_stored_of_mem_given hbefore hheld) hok
  have hiff : q.row.Keeps change old ↔ held.row.Keeps change old := by
    constructor
    · intro h
      exact ⟨fun hn => (hkeeps.name hn).symm.trans (h.name hn),
        fun hn => (hkeeps.cost hn).symm.trans (h.cost hn),
        fun hn => (hkeeps.quantity hn).symm.trans (h.quantity hn)⟩
    · intro h
      exact ⟨fun hn => (hkeeps.name hn).trans (h.name hn),
        fun hn => (hkeeps.cost hn).trans (h.cost hn),
        fun hn => (hkeeps.quantity hn).trans (h.quantity hn)⟩
  refine ⟨old, q.row, hold, hnew, htakes, hiff, fun hlater => hiff.2 ?_⟩
  -- The row of the product was its own right after the call, and no later call was about it.
  have hthen := row?_after src hlater (row?_of_mem_given hbefore hheld)
  rw [← Core.after_cons, ← Core.after_append, hold, Option.some.injEq] at hthen
  rw [hthen]
  exact Row.Keeps.refl held.row change

/-- An apple as it was created, before it was called a pear. -/
def apple : StoredProduct :=
  ⟨Sources.counting.ids 0, "apple", .ofInt 1, 1, ⟨7⟩, Sources.counting.clock 0,
    Sources.counting.clock 0⟩

/-- The apple becomes a pear, and whoever still holds the apple counts ten of it. -/
def rename : Patch := { name := some "pear" }

def recount : Patch := { quantity := some 10 }

theorem recount_keeps_name :
    apple ∈ Call.given (core .counting) {} (.create apple.data) ∧
      (update .counting apple recount ((core .counting).after [.create apple.data] {})).result =
        .ok { apple with quantity := 10, updated := Sources.counting.clock 1 } ∧
      ∃ old new, ((core .counting).after [.create apple.data] {}).row? apple.id = some old ∧
        (update .counting apple recount
          ((core .counting).after [.create apple.data] {})).state.row? apple.id = some new ∧
        new.Keeps recount old := by
  have hheld : apple ∈ Call.given (core .counting) {} (.create apple.data) := by decide
  have hgiven : { apple with quantity := 10, updated := Sources.counting.clock 1 } ∈
      (Call.update apple recount).given (core .counting)
        ((core .counting).after [.create apple.data] {}) := by decide
  have hok := Call.mem_given_update_iff.1 hgiven
  obtain ⟨old, new, hold, hnew, -, -, hkeeps⟩ := update_keeps_iff_held_keeps [] [] _ hheld hok
  exact ⟨hheld, hok, old, new, hold, hnew, hkeeps fun _ h => absurd h List.not_mem_nil⟩

/-- After the renaming it does not: it writes back the name that it does not set. -/
theorem recount_undoes_rename :
    let c := (core .counting).after [.create apple.data, .update apple rename] {}
    apple ∈ Call.given (core .counting) {} (.create apple.data) ∧
      (update .counting apple recount c).result =
        .ok { apple with quantity := 10, updated := Sources.counting.clock 2 } ∧
      ∃ old new, c.row? apple.id = some old ∧ old.name = "pear" ∧
        (update .counting apple recount c).state.row? apple.id = some new ∧ new.name = "apple" ∧
        ¬ new.Keeps recount old := by
  intro c
  have hgiven : { apple with quantity := 10, updated := Sources.counting.clock 2 } ∈
      (Call.update apple recount).given (core .counting) c := by decide
  have hok := Call.mem_given_update_iff.1 hgiven
  have hold : c.row? apple.id =
      some { apple.row with name := "pear", updated := Sources.counting.clock 1 } := by decide
  have hnew : (update .counting apple recount c).state.row? apple.id =
      some { apple.row with quantity := 10, updated := Sources.counting.clock 2 } := by decide
  refine ⟨by decide, hok, _, _, hold, rfl, hnew, rfl, fun h => ?_⟩
  exact absurd (h.name rfl) (by decide)

end Catalogue

end Stockroom
