import Mathlib.Data.List.Nodup
import Stockroom.Store

/-!
# Rows under their ids

A store is keyed if no two of its rows have one id. Every write keeps that, and shows in look-ups
only where it should: under the id that it is about.
-/

namespace Stockroom

open Number Text

/-! ## Reals in a column -/

namespace Number.Real64

theorem isNan_stored (x : Real64) : x.stored.isNan = x.isNan := by
  cases x with
  | nan => rfl
  | signed negative rank =>
    unfold stored
    split <;> rfl

theorem stored_stored (x : Real64) : x.stored.stored = x.stored := by
  by_cases h : x.key = 0
  · simp only [stored, if_pos h]
    rfl
  · simp only [stored, if_neg h]

theorem isNonneg_stored (x : Real64) : x.stored.isNonneg = x.isNonneg := by
  rw [isNonneg, isNonneg, isNan_stored, key_stored]

theorem isNan_of_isNonneg {x : Real64} (h : x.isNonneg = true) : x.isNan = false := by
  simp only [isNonneg, Bool.and_eq_true, Bool.not_eq_true'] at h
  exact h.1

end Number.Real64

/-! ## Rows -/

theorem storedText_points (s : String) : storedText (points s) = .ok s := by
  rw [storedText, toText_points]
  rfl

theorem storedText_ok_iff {text : Points} : (∃ s, storedText text = .ok s) ↔ IsClean text := by
  constructor
  · rintro ⟨s, h⟩
    refine isClean_of_surrogateRun? ?_
    cases hrun : surrogateRun? text with
    | none => rfl
    | some run =>
      rw [storedText, toText, hrun] at h
      cases h
  · intro h
    obtain ⟨s, hs⟩ := h.exists_toText
    exact ⟨s, by rw [storedText, hs]; rfl⟩

namespace Row

@[simp] theorem stored_id (r : Row) : r.stored.id = r.id := rfl
@[simp] theorem stored_name (r : Row) : r.stored.name = r.name := rfl
@[simp] theorem stored_cost (r : Row) : r.stored.cost = r.cost.stored := rfl
@[simp] theorem stored_quantity (r : Row) : r.stored.quantity = r.quantity := rfl

theorem fault?_eq_none_iff {r : Row} :
    r.fault? = none ↔ fitsInt64 r.quantity = true ∧ r.cost.isNan = false := by
  unfold fault?
  cases fitsInt64 r.quantity <;> cases r.cost.isNan <;> simp

end Row

namespace Store

/-! ## Looking up -/

theorem contains_eq_false_iff {s : Store} {id : String} :
    s.contains id = false ↔ ∀ r ∈ s.rows, r.id ≠ id := by
  simp [contains]

theorem find?_eq_none_iff {s : Store} {id : String} :
    s.find? id = none ↔ s.contains id = false := by
  simp [find?, contains]

theorem mem_of_find? {s : Store} {id : String} {r : Row} (h : s.find? id = some r) : r ∈ s.rows :=
  List.mem_of_find?_eq_some h

theorem id_of_find? {s : Store} {id : String} {r : Row} (h : s.find? id = some r) : r.id = id := by
  have := List.find?_some h
  simpa using this

/-! ## Keys -/

/-- No two rows have one id. -/
def Keyed (s : Store) : Prop := (s.rows.map Row.id).Nodup

theorem find?_of_mem {s : Store} (hs : s.Keyed) {r : Row} (hr : r ∈ s.rows) :
    s.find? r.id = some r := by
  cases h : s.find? r.id with
  | none => exact absurd rfl (contains_eq_false_iff.1 (find?_eq_none_iff.1 h) r hr)
  | some r' => rw [List.inj_on_of_nodup_map hs (mem_of_find? h) hr (id_of_find? h)]

/-! ## What a write leaves -/

theorem insert_eq_ok_iff {s t : Store} {r : Row} :
    s.insert r = .ok t ↔
      r.fault? = none ∧ s.contains r.id = false ∧ t = ⟨s.rows ++ [r.stored]⟩ := by
  unfold insert
  cases r.fault? with
  | some fault => simp
  | none => cases s.contains r.id <;> simp [@eq_comm _ t]

/-- A row with the new one in its place. It keeps its id. -/
def swapped (r old : Row) : Row := if old.id == r.id then r.stored else old

theorem swapped_id (r old : Row) : (swapped r old).id = old.id := by
  unfold swapped
  split
  · next h => exact (beq_iff_eq.1 h).symm
  · rfl

theorem replace_eq_ok_iff {s t : Store} {r : Row} :
    s.replace r = .ok t ↔
      r.fault? = none ∧ t = ⟨s.rows.map (swapped r)⟩ := by
  unfold replace
  cases r.fault? with
  | some fault => simp
  | none =>
    simp only [Except.ok.injEq, true_and, @eq_comm _ t]
    exact Iff.rfl

theorem mem_insert {s t : Store} {r : Row} (h : s.insert r = .ok t) {x : Row} :
    x ∈ t.rows ↔ x ∈ s.rows ∨ x = r.stored := by
  obtain ⟨-, -, rfl⟩ := insert_eq_ok_iff.1 h
  simp

theorem mem_replace {s t : Store} {r : Row} (h : s.replace r = .ok t) {x : Row}
    (hx : x ∈ t.rows) : x = r.stored ∨ x ∈ s.rows ∧ x.id ≠ r.id := by
  obtain ⟨-, rfl⟩ := replace_eq_ok_iff.1 h
  obtain ⟨old, hold, rfl⟩ := List.mem_map.1 hx
  by_cases hid : old.id = r.id
  · simp [swapped, hid]
  · simp [swapped, hid, hold]

theorem mem_erase {s : Store} {id : String} {x : Row} :
    x ∈ (s.erase id).rows ↔ x ∈ s.rows ∧ x.id ≠ id := by
  simp [erase]

theorem ids_replace {s t : Store} {r : Row} (h : s.replace r = .ok t) :
    t.rows.map Row.id = s.rows.map Row.id := by
  obtain ⟨-, rfl⟩ := replace_eq_ok_iff.1 h
  rw [List.map_map]
  exact List.map_congr_left fun old _ => swapped_id r old

theorem Keyed.insert {s t : Store} {r : Row} (hs : s.Keyed) (h : s.insert r = .ok t) :
    t.Keyed := by
  obtain ⟨-, hfresh, rfl⟩ := insert_eq_ok_iff.1 h
  rw [Keyed, List.map_append, List.nodup_append]
  refine ⟨hs, List.nodup_singleton _, ?_⟩
  intro a ha b hb
  obtain ⟨old, hold, rfl⟩ := List.mem_map.1 ha
  rw [List.map_singleton, List.mem_singleton] at hb
  rw [hb]
  exact contains_eq_false_iff.1 hfresh old hold

theorem Keyed.replace {s t : Store} {r : Row} (hs : s.Keyed) (h : s.replace r = .ok t) :
    t.Keyed := by
  rw [Keyed, ids_replace h]
  exact hs

theorem Keyed.erase {s : Store} (hs : s.Keyed) (id : String) : (s.erase id).Keyed :=
  List.Nodup.sublist (List.Sublist.map _ List.filter_sublist) hs

/-! ## Looking up after a write -/

theorem find?_insert {s t : Store} {r : Row} (h : s.insert r = .ok t) (id : String) :
    t.find? id = if id = r.id then some r.stored else s.find? id := by
  obtain ⟨-, hfresh, rfl⟩ := insert_eq_ok_iff.1 h
  rw [find?, List.find?_append]
  by_cases hid : id = r.id
  · have hnone : s.rows.find? (·.id == id) = none := find?_eq_none_iff.2 (hid ▸ hfresh)
    rw [hnone, if_pos hid]
    simp [hid]
  · have hmiss : [r.stored].find? (·.id == id) = none := by simp [Ne.symm hid]
    rw [hmiss, if_neg hid, Option.or_none]
    rfl

theorem find?_replace {s t : Store} {r : Row} (h : s.replace r = .ok t) (id : String) :
    t.find? id = if id = r.id then (s.find? id).map fun _ => r.stored else s.find? id := by
  obtain ⟨-, rfl⟩ := replace_eq_ok_iff.1 h
  have hkey : ((fun x : Row => x.id == id) ∘ swapped r) = fun x => x.id == id := by
    funext old
    rw [Function.comp_apply, swapped_id]
  rw [find?, List.find?_map, hkey]
  cases hfind : s.rows.find? (·.id == id) with
  | none => simp [find?, hfind]
  | some old =>
    have hold : old.id = id := by simpa using List.find?_some hfind
    rw [find?, hfind]
    by_cases hid : id = r.id <;> simp [swapped, hold, hid]

theorem find?_erase (s : Store) (gone id : String) :
    (s.erase gone).find? id = if id = gone then none else s.find? id := by
  rw [find?, erase, List.find?_filter]
  by_cases hid : id = gone
  · rw [if_pos hid, List.find?_eq_none]
    intro r _
    simp only [bne_iff_ne, beq_iff_eq, decide_eq_true_eq, not_and]
    exact fun hne heq => hne (heq.trans hid)
  · rw [if_neg hid, find?]
    congr 1
    funext r
    by_cases hr : r.id = id
    · simp [hr, hid]
    · simp [hr]

/-! ## Reading -/

theorem slice_sublist {α : Type} (offset limit : Int) (l : List α) :
    (slice offset limit l).Sublist l := by
  unfold slice
  split
  · exact List.drop_sublist _ _
  · exact (List.take_sublist _ _).trans (List.drop_sublist _ _)

theorem page?_sublist {s : Store} {f : Filter} {field : SortField} {reverse : Bool}
    {offset limit : Int} {rows : List Row} (h : s.page? f field reverse offset limit = .ok rows) :
    rows.Sublist (sorted f field reverse (s.rows.filter (Row.satisfies f))) := by
  unfold page? at h
  split at h
  · cases h
  · next hfilter =>
    split at h
    · cases h
    · split at h
      · cases h
        exact List.nil_sublist _
      · rw [select?, hfilter] at h
        cases hpattern : s.patternFault f with
        | true => simp [hpattern, Except.map] at h
        | false =>
          simp only [hpattern, Except.map, Bool.false_eq_true, if_false, Except.ok.injEq] at h
          exact h ▸ slice_sublist _ _ _

theorem mem_of_mem_page? {s : Store} {f : Filter} {field : SortField} {reverse : Bool}
    {offset limit : Int} {rows : List Row} (h : s.page? f field reverse offset limit = .ok rows)
    {r : Row} (hr : r ∈ rows) : r ∈ s.rows := by
  have hsorted := (page?_sublist h).subset hr
  rw [(sorted_perm _ _ _ _).mem_iff] at hsorted
  exact List.mem_of_mem_filter hsorted

end Store

end Stockroom
