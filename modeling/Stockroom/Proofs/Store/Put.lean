import Stockroom.Proofs.Store

/-!
# One row in the place of another

A write that changes or removes a row leaves every other row in its place. So two writes under
different ids may change places, and of two writes under one id only the later one counts.
-/

namespace Stockroom.Store

variable {s t : Store} {id other : String} {r : Row} {new : Option Row}

/-- The store with a row in the place of the one under an id, or without that one. -/
def put (id : String) (new : Option Row) (s : Store) : Store :=
  ⟨s.rows.filterMap fun r => if r.id = id then new else some r⟩

theorem replace_eq_put (h : s.replace r = .ok t) : t = s.put r.id (some r.stored) := by
  obtain ⟨-, rfl⟩ := replace_eq_ok_iff.1 h
  rw [put, ← List.filterMap_eq_map]
  congr 2
  funext old
  by_cases hid : old.id = r.id <;> simp [swapped, hid]

theorem erase_eq_put (s : Store) (id : String) : s.erase id = s.put id none := by
  rw [erase, put, ← List.filterMap_eq_filter]
  congr 2
  funext old
  by_cases hid : old.id = id <;> simp [hid]

/-! ## What a write leaves -/

theorem put_eq_self (h : ∀ old ∈ s.rows, old.id = id → some old = new) : s.put id new = s := by
  have hrows : s.rows.filterMap (fun old => if old.id = id then new else some old) = s.rows := by
    refine (List.filterMap_congr fun old hold => ?_).trans List.filterMap_some
    split
    · next hid => exact (h old hold hid).symm
    · rfl
  rw [put, hrows]

theorem put_find? (hs : s.Keyed) (id : String) : s.put id (s.find? id) = s :=
  put_eq_self fun old hold hid => by rw [← hid, find?_of_mem hs hold]

/-- What is put is found wherever the old row was, as long as it passes for that one. -/
theorem find?_put (s : Store)
    (hkey : ∀ r : Row, (if r.id = id then new else some r).any (·.id == other) =
      (r.id == other)) :
    (s.put id new).find? other =
      (s.find? other).bind fun r => if r.id = id then new else some r := by
  rw [put, find?, List.find?_filterMap, funext hkey]
  rfl

theorem find?_put_of_ne (hnew : ∀ r ∈ new, r.id = id) (h : other ≠ id) :
    (s.put id new).find? other = s.find? other := by
  rw [find?_put]
  · cases hfind : s.find? other with
    | none => rfl
    | some old => simp [id_of_find? hfind, h]
  · intro r
    split
    · next hid =>
      have hmiss : (r.id == other) = false := by simpa [hid] using h.symm
      cases new with
      | none => simp [hmiss]
      | some r' => simpa [hmiss, hnew r' rfl] using h.symm
    · rfl

theorem find?_put_self (hr : r.id = id) :
    (s.put id (some r)).find? id = (s.find? id).map fun _ => r := by
  rw [find?_put]
  · cases hfind : s.find? id with
    | none => rfl
    | some old => simp [id_of_find? hfind]
  · intro old
    split
    · next hid => simp [hid, hr]
    · rfl

theorem put_put (hr : r.id = id) : (s.put id (some r)).put id new = s.put id new := by
  rw [put, put, put, List.filterMap_filterMap]
  congr 2
  funext old
  by_cases hid : old.id = id <;> simp [hid, hr]

theorem put_comm {new' : Option Row} (hnew : ∀ r ∈ new, r.id = id)
    (hnew' : ∀ r ∈ new', r.id = other) (h : other ≠ id) :
    (s.put id new).put other new' = (s.put other new').put id new := by
  rw [put, put, put, put, List.filterMap_filterMap, List.filterMap_filterMap]
  congr 2
  funext old
  by_cases hid : old.id = id
  · cases new with
    | none => simp [hid, h.symm]
    | some r => simp [hid, hnew r rfl, h.symm]
  · by_cases hother : old.id = other
    · cases new' with
      | none => simp [hother, h]
      | some r => simp [hother, hnew' r rfl, h]
    · simp [hid, hother]

end Stockroom.Store
