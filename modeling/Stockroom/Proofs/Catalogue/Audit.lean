import Stockroom.Proofs.Catalogue.Failure
import Stockroom.Proofs.Catalogue.Identity

/-!
# The log of the catalogue

A write that succeeds leaves one line in the log, and nothing else leaves any. A reader who keeps a
list of ids by these lines alone has the ids of the table after every call, and never meets a line
that does not fit the ids that it has by then.
-/

namespace Stockroom

open Text

/-! ## Reading the lines -/

inductive Deed where
  | creation
  | change
  | removal
  deriving DecidableEq

/-- The words of a line in front of its id. -/
def Deed.words : Deed → String
  | .creation => "Created product "
  | .change => "Updated product "
  | .removal => "Deleted product "

def Deed.all : List Deed := [.creation, .change, .removal]

structure Entry where
  deed : Deed
  id : Uuid
  deriving DecidableEq

namespace Entry

def line (e : Entry) : LogLine := ⟨.info, .catalogue, e.deed.words ++ e.id.text⟩

def ofLine? (l : LogLine) : Option Entry :=
  Deed.all.findSome? fun deed =>
    (l.message.dropPrefix? (points deed.words)).bind fun rest =>
      (Uuid.ofPoints? rest).map fun id => ⟨deed, id⟩

theorem ofLine?_line (e : Entry) : ofLine? e.line = some e := by
  obtain ⟨deed, id⟩ := e
  have hid : Uuid.ofPoints? (points id.text) = some id := by
    unfold Uuid.ofPoints?
    rw [readPoints?_points]
    exact Uuid.ofText?_text id
  have hfront (words : String) (rest : Points) :
      (points words ++ rest).dropPrefix? (points words) = some rest :=
    List.dropPrefix?_append_of_beq rest (beq_self_eq_true _)
  cases deed <;> simp only [ofLine?, Deed.all, line, List.findSome?_cons, Deed.words]
  · simp [hfront, hid]
  · have hcreated : (points "Updated product " ++ points id.text).dropPrefix?
        (points "Created product ") = none := rfl
    simp [hcreated, hfront, hid]
  · have hcreated : (points "Deleted product " ++ points id.text).dropPrefix?
        (points "Created product ") = none := rfl
    have hupdated : (points "Deleted product " ++ points id.text).dropPrefix?
        (points "Updated product ") = none := rfl
    simp [hcreated, hupdated, hfront, hid]

/-- The ids behind an entry. One that does not fit the ids before it has none. -/
def next? (ids : List Uuid) (e : Entry) : Option (List Uuid) :=
  match e.deed with
  | .creation => if e.id ∈ ids then none else some (ids ++ [e.id])
  | .change => if e.id ∈ ids then some ids else none
  | .removal => if e.id ∈ ids then some (ids.filter (· != e.id)) else none

end Entry

/-- The ids that a reader has behind some lines, if all of them can be read and fit. -/
def replay (ids : List Uuid) (lines : List LogLine) : Option (List Uuid) :=
  lines.foldlM (fun ids line => (Entry.ofLine? line).bind (Entry.next? ids)) ids

theorem replay_append (ids : List Uuid) (lines more : List LogLine) :
    replay ids (lines ++ more) = (replay ids lines).bind fun ids => replay ids more := by
  unfold replay
  rw [List.foldlM_append]
  rfl

theorem replay_lines (ids : List Uuid) (entry : Option Entry) :
    replay ids (entry.toList.map Entry.line) =
      match entry with
      | none => some ids
      | some e => e.next? ids := by
  cases entry with
  | none => rfl
  | some e => simp [replay, Entry.ofLine?_line]

def Core.logs {σ : Type} (core : Core σ) (calls : List Call) (s : σ) : List LogLine :=
  (core.trace calls s).flatMap (·.2)

@[simp] theorem Core.logs_cons {σ : Type} (core : Core σ) (call : Call) (calls : List Call)
    (s : σ) :
    core.logs (call :: calls) s =
      (call.run core s).logs ++ core.logs calls (call.run core s).state := by
  simp [Core.logs, Core.trace]

namespace Catalogue

variable {src : Sources} {c : Catalogue}

/-! ## The line of a call -/

/-- What a call enters in the log: a creation and an update that succeed, and a removal of what is
there. -/
def entryOf? (src : Sources) (c : Catalogue) : Call → Option Entry
  | .create p => (create src p c).result.toOption.map fun made => ⟨.creation, made.id⟩
  | .update held change =>
    (update src held change c).result.toOption.map fun _ => ⟨.change, held.id⟩
  | .delete held => if (c.row? held.id).isSome then some ⟨.removal, held.id⟩ else none
  | .query _ _ _ _ => none
  | .count _ => none
  | .queryById _ => none

theorem logs_create (p : NewProduct) (hc : c.WellFormed) :
    (create src p c).logs = (entryOf? src c (.create p)).toList.map Entry.line := by
  obtain ⟨s, n, k, rfl, -⟩ := hc.exists_ready
  rcases create_cases src p s n k with ⟨row, t, hrow, hins, heq⟩ | ⟨fault, -, heq⟩
  · have hwf := wellFormed_of_newRow hrow (Store.insert_eq_ok_iff.1 hins).1
    obtain ⟨made, hmade⟩ := hwf.exists_product
    have hid : row.id = made.id.text := by
      rw [← Row.stored_id, hmade, StoredProduct.row_id]
    simp only [entryOf?, heq, hwf.product_eq_ok_iff.2 hmade, hid]
    rfl
  · simp only [entryOf?, heq]
    rfl

theorem logs_update (held : Product) (change : Patch) (hc : c.WellFormed) :
    (update src held change c).logs =
      (entryOf? src c (.update held change)).toList.map Entry.line := by
  obtain ⟨s, n, k, rfl, hs⟩ := hc.exists_ready
  rcases update_cases src held change s n k with
    ⟨-, heq⟩ | ⟨old, row, t, hold, hrow, hrep, heq⟩ | ⟨_, _, -, -, heq⟩
  · simp only [entryOf?, heq]
    rfl
  · have hwf := wellFormed_of_changedRow hrow (hs.rows old (Store.mem_of_find? hold))
      (Store.replace_eq_ok_iff.1 hrep).1
    obtain ⟨changed, hchanged⟩ := hwf.exists_product
    have hid : row.id = held.id.text := (changedRow_id hrow).trans (Store.id_of_find? hold)
    simp only [entryOf?, heq, hwf.product_eq_ok_iff.2 hchanged, hid]
    rfl
  · simp only [entryOf?, heq]
    rfl

theorem logs_delete (held : Product) (hc : c.WellFormed) :
    (delete held c).logs = (entryOf? src c (.delete held)).toList.map Entry.line := by
  obtain ⟨s, n, k, rfl, -⟩ := hc.exists_ready
  rcases delete_cases held s n k with ⟨hthere, heq⟩ | ⟨hgone, heq⟩
  · have hfind : (s.find? held.id.text).isSome = true := by
      rw [Option.isSome_iff_ne_none, ne_eq, Store.find?_eq_none_iff, hthere]
      simp
    simp only [entryOf?, row?_ready, heq, hfind, if_true]
    rfl
  · simp only [entryOf?, row?_ready, heq, Store.find?_eq_none_iff.2 hgone]
    rfl

theorem logs_run (src : Sources) (call : Call) (hc : c.WellFormed) :
    (call.run (core src) c).logs = (entryOf? src c call).toList.map Entry.line := by
  cases call with
  | create p => exact logs_create p hc
  | update held change => exact logs_update held change hc
  | delete held => exact logs_delete held hc
  | query f order page rows =>
    show (query f order page rows c).logs = []
    unfold query
    split <;> rfl
  | count f => rfl
  | queryById id =>
    show (queryById id c).logs = []
    unfold queryById
    split
    · rfl
    · split <;> rfl

/-! ## The ids that a reader has -/

/-- A list of ids is that of the table. -/
def Lists (c : Catalogue) (ids : List Uuid) : Prop := c.ids = ids.map Uuid.text

theorem Lists.mem_iff {ids : List Uuid} (h : c.Lists ids) (id : Uuid) :
    id ∈ ids ↔ ∃ r, c.row? id = some r := by
  rw [← mem_ids_iff, h, List.mem_map_of_injective fun _ _ => Uuid.text_injective]

theorem exists_replay_run (src : Sources) {ids : List Uuid} (call : Call) (hc : c.WellFormed)
    (hids : c.Lists ids) :
    ∃ ids', replay ids (call.run (core src) c).logs = some ids' ∧
      (call.run (core src) c).state.Lists ids' := by
  rw [logs_run src call hc, replay_lines]
  have hstep := idsStep_run src call hc
  cases call with
  | create p =>
    rcases hstep with ⟨made, hmade, -, hfresh, hstate⟩ | ⟨fault, hfault, hstate⟩
    · have hnot : made.id ∉ ids := by
        rwa [hids.mem_iff, ← mem_ids_iff]
      refine ⟨ids ++ [made.id], ?_, ?_⟩
      · simp [entryOf?, hmade, Except.toOption, Entry.next?, hnot]
      · show (create src p c).state.ids = _
        rw [hstate, hids, List.map_append]
        rfl
    · refine ⟨ids, ?_, hstate.trans hids⟩
      simp [entryOf?, hfault, Except.toOption]
  | update held change =>
    refine ⟨ids, ?_, hstep.trans hids⟩
    cases hresult : (update src held change c).result with
    | error fault => simp [entryOf?, hresult, Except.toOption]
    | ok q =>
      obtain ⟨old, -, hold, -⟩ := update_ok hc hresult
      have hin : held.id ∈ ids := (hids.mem_iff held.id).2 ⟨old, hold⟩
      simp [entryOf?, hresult, Except.toOption, Entry.next?, hin]
  | delete held =>
    refine ⟨ids.filter (· != held.id), ?_, ?_⟩
    · by_cases hin : held.id ∈ ids
      · have hthere := Option.isSome_iff_exists.2 ((hids.mem_iff held.id).1 hin)
        simp [entryOf?, hthere, Entry.next?, hin]
      · have hgone : (c.row? held.id).isSome = false := by
          rw [Option.isSome_eq_false_iff, Option.isNone_iff_eq_none,
            Option.eq_none_iff_forall_ne_some]
          intro r hr
          exact hin ((hids.mem_iff held.id).2 ⟨r, hr⟩)
        -- Nothing is logged, and nothing is taken away.
        have hall : ids.filter (· != held.id) = ids := by
          rw [List.filter_eq_self]
          intro id hid
          rw [bne_iff_ne]
          rintro rfl
          exact hin hid
        simp [entryOf?, hgone, hall]
    · have htext : ((· != held.id.text) ∘ Uuid.text) = (· != held.id) := by
        funext id
        simp [bne, beq_eq_decide]
      have hstate : (delete held c).state.ids = c.ids.filter (· != held.id.text) := hstep
      show (delete held c).state.ids = _
      rw [hstate, hids, List.filter_map, htext]
  | query f order page rows => exact ⟨ids, rfl, hstep.trans hids⟩
  | count f => exact ⟨ids, rfl, hstep.trans hids⟩
  | queryById id => exact ⟨ids, rfl, hstep.trans hids⟩

theorem exists_replay_after (calls : List Call) {ids : List Uuid} (hc : c.WellFormed)
    (hids : c.Lists ids) :
    ∃ ids', replay ids ((core src).logs calls c) = some ids' ∧
      ((core src).after calls c).Lists ids' := by
  induction calls generalizing c ids with
  | nil => exact ⟨ids, rfl, hids⟩
  | cons call calls ih =>
    obtain ⟨mid, hmid, hmids⟩ := exists_replay_run src call hc hids
    obtain ⟨last, hlast, hlasts⟩ := ih (wellFormed_run src call hc) hmids
    refine ⟨last, ?_, hlasts⟩
    rw [Core.logs_cons, replay_append, hmid]
    exact hlast

/-- In a run from an empty table every call logs its entry and no more. Read from the beginning, the
log of the run gives the ids of the table, and each of its lines fits the ones before it. -/
theorem log_replays_to_ids (src : Sources) (calls : List Call) :
    let c := (core src).after calls {}
    (∀ call : Call, (call.run (core src) c).logs = (entryOf? src c call).toList.map Entry.line) ∧
      ∃ ids, replay [] ((core src).logs calls {}) = some ids ∧ c.Lists ids := by
  intro c
  refine ⟨?_, exists_replay_after calls wellFormed_empty rfl⟩
  intro call
  exact logs_run src call (wellFormed_after src calls)

end Catalogue

end Stockroom
