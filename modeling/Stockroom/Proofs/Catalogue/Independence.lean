import Stockroom.Proofs.Catalogue.Failure
import Stockroom.Proofs.Catalogue.Patch
import Stockroom.Proofs.Catalogue.Settle

/-!
# Calls about different products

Updates and removals of different products do not see each other. In either order each of them ends
in the same way, and leaves the same table, but for the times that the clock has given to the
updates. This is so also for a call that fails, and whatever product its caller holds.
-/

namespace Stockroom

/-- How a call about a product ends at a time, if this is the row of the product, and the row that
it leaves. -/
def Call.settle (now : Timestamp) (old : Option Row) : Call → Except CoreFault Answer × Option Row
  | .update held change =>
    let out := Catalogue.rewritten held change now old
    (out.1.map .product, out.2)
  | .delete _ => (.ok .done, none)
  | _ => (.ok .done, old)

namespace Catalogue

variable {src : Sources} {c : Catalogue} {s : Store} {u v : Uuid} {a b : Call}

/-- A call about a product looks at its row only, and puts what it makes of it in its place. -/
theorem run_eq (hs : s.Keyed) (ha : a.IsAbout u) (src : Sources) (n k : Nat) :
    (a.run (core src) ⟨.ready s, n, k⟩).result =
        (a.settle (src.clock k) (s.find? u.text)).1 ∧
      (a.run (core src) ⟨.ready s, n, k⟩).state =
        ⟨.ready (s.put u.text (a.settle (src.clock k) (s.find? u.text)).2), n,
          k + a.ticksDrawn⟩ := by
  cases a with
  | update held change =>
    obtain rfl : held.id = u := ha
    obtain ⟨hresult, hstate⟩ := update_put src held change hs n k
    exact ⟨congrArg (Except.map Answer.product) hresult, hstate⟩
  | delete held =>
    obtain rfl : held.id = u := ha
    obtain ⟨hresult, hstate⟩ := delete_put held s n k
    exact ⟨congrArg (Except.map fun _ => Answer.done) hresult, hstate⟩
  | _ => exact ha.elim

theorem settle_cases (ha : a.IsAbout u) {old : Option Row}
    (hold : ∀ r ∈ old, r.WellFormed ∧ r.id = u.text) :
    (∃ fault, ∀ now, a.settle now old = (.error fault, old)) ∨
      (∃ q : StoredProduct, q.id = u ∧
        ∀ now, a.settle now old = (.ok (.product (q.asOf now)), some (q.asOf now).row)) ∨
      ∀ now, a.settle now old = (.ok .done, none) := by
  cases a with
  | update held change =>
    obtain rfl : held.id = u := ha
    rcases rewritten_cases held change hold with ⟨fault, h⟩ | ⟨q, hq, h⟩
    · exact Or.inl ⟨fault, fun now => by rw [Call.settle, h]; rfl⟩
    · exact Or.inr (Or.inl ⟨q, hq, fun now => by rw [Call.settle, h]; rfl⟩)
  | delete held => exact Or.inr (Or.inr fun _ => rfl)
  | _ => exact ha.elim

section

variable {old : Option Row} (ha : a.IsAbout u) (hold : ∀ r ∈ old, r.WellFormed ∧ r.id = u.text)
include ha hold

theorem settle_result (now later : Timestamp) :
    (a.settle later old).1 = (a.settle now old).1.map (Answer.asOf later) := by
  rcases settle_cases ha hold with ⟨fault, h⟩ | ⟨q, -, h⟩ | h <;> rw [h, h] <;> rfl

theorem id_of_settle {now : Timestamp} : ∀ r ∈ (a.settle now old).2, r.id = u.text := by
  rcases settle_cases ha hold with ⟨fault, h⟩ | ⟨q, rfl, h⟩ | h <;> rw [h]
  · exact fun r hr => (hold r hr).2
  · intro r hr
    rw [← Option.some.inj hr, StoredProduct.row_id, StoredProduct.asOf_id]
  · exact fun r hr => absurd hr (Option.not_mem_none r)

theorem dated_settle {now later : Timestamp} {c : Catalogue}
    (hresult : (a.run (core src) c).result = (a.settle later old).1) (s : Store) :
    (a.given (core src) c).foldl Table.dated (.ready (s.put u.text (a.settle now old).2)) =
      .ready (s.put u.text (a.settle later old).2) := by
  rw [Call.given, hresult]
  rcases settle_cases ha hold with ⟨fault, h⟩ | ⟨q, rfl, h⟩ | h <;> rw [h, h]
  · rfl
  · exact congrArg Table.ready (Store.dated_put s (q.asOf now) later)
  · rfl

end

theorem wellFormed_of_find? (hs : s.WellFormed) (id : Uuid) :
    ∀ r ∈ s.find? id.text, r.WellFormed ∧ r.id = id.text :=
  fun r hr => ⟨hs.rows r (Store.mem_of_find? hr), Store.id_of_find? hr⟩

theorem find?_of_ne (hs : s.WellFormed) (ha : a.IsAbout u) {w : Uuid} (hw : w ≠ u)
    (now : Timestamp) :
    (s.put u.text (a.settle now (s.find? u.text)).2).find? w.text = s.find? w.text :=
  Store.find?_put_of_ne (id_of_settle ha (wellFormed_of_find? hs u))
    fun h => hw (Uuid.text_injective h)

theorem row?_of_ne (hc : c.WellFormed) (ha : a.IsAbout u) {w : Uuid} (hw : w ≠ u) :
    (a.run (core src) c).state.row? w = c.row? w := by
  obtain ⟨s, n, k, rfl, hs⟩ := hc.exists_ready
  rw [(run_eq hs.keyed ha src n k).2, row?_ready, row?_ready, find?_of_ne hs ha hw]

theorem run_run (hs : s.WellFormed) (ha : a.IsAbout u) (hb : b.IsAbout v) (huv : u ≠ v)
    (src : Sources) (n k : Nat) :
    let between := (a.run (core src) ⟨.ready s, n, k⟩).state
    let last := b.settle (src.clock between.ticks) (s.find? v.text)
    (b.run (core src) between).result = last.1 ∧
      (b.run (core src) between).state.table =
        .ready ((s.put u.text (a.settle (src.clock k) (s.find? u.text)).2).put v.text last.2) := by
  have hwf : (a.run (core src) ⟨.ready s, n, k⟩).state.WellFormed := wellFormed_run src a hs
  rw [(run_eq hs.keyed ha src n k).2] at hwf ⊢
  have hkeyed : (s.put u.text (a.settle (src.clock k) (s.find? u.text)).2).Keyed := hwf.keyed
  obtain ⟨hresult, hstate⟩ := run_eq hkeyed hb src n (k + a.ticksDrawn)
  rw [find?_of_ne hs ha huv.symm] at hresult hstate
  exact ⟨hresult, congrArg Catalogue.table hstate⟩

theorem result_after (hc : c.WellFormed) (ha : a.IsAbout u) (hb : b.IsAbout v) (huv : u ≠ v) :
    let between := (a.run (core src) c).state
    (b.run (core src) between).result =
      (b.run (core src) c).result.map (Answer.asOf (src.clock between.ticks)) := by
  obtain ⟨s, n, k, rfl, hs⟩ := hc.exists_ready
  intro between
  rw [(run_run hs ha hb huv src n k).1, (run_eq hs.keyed hb src n k).1]
  exact settle_result hb (wellFormed_of_find? hs v) _ _

theorem table_after (hc : c.WellFormed) (ha : a.IsAbout u) (hb : b.IsAbout v) (huv : u ≠ v) :
    let ca := (a.run (core src) c).state
    let cb := (b.run (core src) c).state
    (a.run (core src) cb).state.table =
      (b.given (core src) c ++ a.given (core src) cb).foldl Table.dated
        (b.run (core src) ca).state.table := by
  obtain ⟨s, n, k, rfl, hs⟩ := hc.exists_ready
  intro ca cb
  have hu := wellFormed_of_find? hs u
  have hv := wellFormed_of_find? hs v
  have hne : v.text ≠ u.text := fun h => huv (Uuid.text_injective h).symm
  have hfirst := (run_eq hs.keyed hb src n k).1
  have hab := (run_run hs ha hb huv src n k).2
  obtain ⟨hlast, hba⟩ := run_run hs hb ha huv.symm src n k
  -- First the time of the later row is set, while it is the last one that was put in its place.
  rw [hab, hba, List.foldl_append, dated_settle hb hv hfirst,
    Store.put_comm (id_of_settle ha hu) (id_of_settle hb hv) hne]
  exact (dated_settle ha hu hlast _).symm

/-- Two calls about different products may change places. Each of them ends as it does in the other
order, and the table that they leave is the same, but for the times: those that are shown by the
products which the calls give. No row is touched but that of the product that a call is about. -/
theorem different_products_commute (src : Sources) (calls : List Call) {u v : Uuid} (huv : u ≠ v)
    {a b : Call} (ha : a.IsAbout u) (hb : b.IsAbout v) :
    let c := (core src).after calls {}
    let ca := (a.run (core src) c).state
    let cb := (b.run (core src) c).state
    (b.run (core src) ca).result =
        (b.run (core src) c).result.map (Answer.asOf (src.clock ca.ticks)) ∧
      (a.run (core src) cb).result =
        (a.run (core src) c).result.map (Answer.asOf (src.clock cb.ticks)) ∧
      (a.run (core src) cb).state.table =
        (b.given (core src) c ++ a.given (core src) cb).foldl Table.dated
          (b.run (core src) ca).state.table ∧
      (∀ w, w ≠ u → ca.row? w = c.row? w) ∧ ∀ w, w ≠ v → cb.row? w = c.row? w := by
  intro c ca cb
  have hc : c.WellFormed := wellFormed_after src calls
  exact ⟨result_after hc ha hb huv, result_after hc hb ha huv.symm, table_after hc ha hb huv,
    fun w hw => row?_of_ne hc ha hw, fun w hw => row?_of_ne hc hb hw⟩

/-- A pear that is created after the apple. -/
def pear : StoredProduct :=
  ⟨Sources.counting.ids 1, "pear", .ofInt 2, 5, ⟨7⟩, Sources.counting.clock 1,
    Sources.counting.clock 1⟩

theorem apple_and_pear_recounted :
    let c := (core .counting).after [.create apple.data, .create pear.data] {}
    let a : Call := .update apple recount
    let b : Call := .update pear recount
    let ca := (a.run (core .counting) c).state
    let cb := (b.run (core .counting) c).state
    apple.id ≠ pear.id ∧ a.IsAbout apple.id ∧ b.IsAbout pear.id ∧
      (a.run (core .counting) cb).result = (a.run (core .counting) c).result.map
        (Answer.asOf (Sources.counting.clock 3)) ∧
      (a.run (core .counting) cb).state.table =
        (b.given (core .counting) c ++ a.given (core .counting) cb).foldl Table.dated
          (b.run (core .counting) ca).state.table ∧
      ca.row? apple.id =
        some { apple.row with quantity := 10, updated := Sources.counting.clock 2 } ∧
      (a.run (core .counting) cb).state.row? apple.id =
        some { apple.row with quantity := 10, updated := Sources.counting.clock 3 } := by
  intro c a b ca cb
  have hne : apple.id ≠ pear.id := by decide
  obtain ⟨-, hresult, htable, -, -⟩ :=
    different_products_commute .counting [.create apple.data, .create pear.data] hne
      (a := a) (b := b) rfl rfl
  exact ⟨hne, rfl, rfl, hresult, htable, by decide, by decide⟩

end Catalogue

end Stockroom
