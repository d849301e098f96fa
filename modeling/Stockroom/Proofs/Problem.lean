import Stockroom.Problem
import Stockroom.Proofs.Json.Writer

/-!
# Problems as bodies

The body of a problem can be encoded if the names and the messages in it are strings.
-/

namespace Stockroom

open Text

namespace Problem

theorem exists_body {error : Points} {faults : Faults} (herror : IsClean error)
    (hfaults : ∀ f ∈ faults, IsClean f.1 ∧ IsClean f.2) :
    ∃ text, (body error faults).body = .ok text := by
  refine IsClean.exists_toText (Json.forall_mem_object not_isSurrogate_toNat fun m hm => ?_)
  rcases List.mem_cons.1 hm with rfl | hm
  · exact ⟨isClean_points "error", Json.forall_mem_string not_isSurrogate_toNat herror⟩
  · split at hm
    · exact absurd hm List.not_mem_nil
    · obtain rfl := List.mem_singleton.1 hm
      refine ⟨isClean_points "fields", Json.forall_mem_object not_isSurrogate_toNat fun m hm => ?_⟩
      obtain ⟨f, hf, rfl⟩ := List.mem_map.1 hm
      exact ⟨(hfaults f hf).1, Json.forall_mem_string not_isSurrogate_toNat (hfaults f hf).2⟩

/-! ## Validation records -/

/-- A record whose name and message are strings. -/
def Record.IsClean (r : Record) : Prop := Text.IsClean r.name ∧ Text.IsClean r.messageText

theorem mem_addFault {faults : Faults} {name message : Points} {f : Points × Points}
    (hf : f ∈ addFault faults name message) : f ∈ faults ∨ f = (name, message) := by
  unfold addFault at hf
  split at hf
  · exact Or.inl hf
  · rwa [List.mem_append, List.mem_singleton] at hf

theorem addFault_of_mem {faults : Faults} {name : Points} (h : name ∈ faults.map (·.1))
    (message : Points) : addFault faults name message = faults := by
  have hany : faults.any (·.1 == name) = true := by simpa using h
  unfold addFault
  rw [if_pos hany]

theorem addFault_of_not_mem {faults : Faults} {name : Points} (h : name ∉ faults.map (·.1))
    (message : Points) : addFault faults name message = faults ++ [(name, message)] := by
  have hany : ¬ faults.any (·.1 == name) = true := by simpa using h
  unfold addFault
  rw [if_neg hany]

theorem foldl_addFault_of_nodup {faults more : Faults} (h : ((faults ++ more).map (·.1)).Nodup) :
    more.foldl (fun fs f => addFault fs f.1 f.2) faults = faults ++ more := by
  induction more generalizing faults with
  | nil => simp
  | cons f more ih =>
    have hf : f.1 ∉ faults.map (·.1) := by
      intro hmem
      rw [List.map_append, List.map_cons, List.nodup_append] at h
      exact h.2.2 _ hmem _ List.mem_cons_self rfl
    rw [List.foldl_cons, addFault_of_not_mem hf, ih (by simpa using h)]
    simp

theorem foldl_addFault_message (message : Points) (names : List Points) (faults : Faults) :
    names.foldl (fun fs name => addFault fs name message) faults =
      faults ++
        (names.filter (· ∉ faults.map (·.1))).eraseDups.map fun name => (name, message) := by
  induction names generalizing faults with
  | nil => simp
  | cons name names ih =>
    rw [List.foldl_cons]
    by_cases hname : name ∈ faults.map (·.1)
    · rw [addFault_of_mem hname, ih, List.filter_cons_of_neg (by simpa using hname)]
    · rw [addFault_of_not_mem hname, ih, List.filter_cons_of_pos (by simpa using hname),
        List.eraseDups_cons, List.filter_filter]
      have hkept : ∀ other, decide (other ∉ (faults ++ [(name, message)]).map (·.1)) =
          (!other == name && decide (other ∉ faults.map (·.1))) := by
        intro other
        rw [Bool.eq_iff_iff, List.map_append, List.map_singleton]
        simp only [decide_eq_true_eq, List.mem_append, List.mem_singleton, Bool.and_eq_true,
          Bool.not_eq_true', beq_eq_false_iff_ne, not_or, ne_eq]
        exact and_comm
      simp only [hkept]
      simp

theorem classify_of_not_isDecode {records : List Record}
    (h : ∀ r ∈ records, r.isDecode = false) :
    classify records = .fields ((records.map fun r => (r.name, r.messageText)).foldl
      (fun fs f => addFault fs f.1 f.2) []) := by
  have hany : ¬ records.any Record.isDecode = true := by
    rw [Bool.not_eq_true, List.any_eq_false]
    intro r hr
    simp [h r hr]
  unfold classify
  rw [if_neg hany, List.foldl_map]

theorem isClean_of_mem_foldl {records : List Record} (hrecords : ∀ r ∈ records, r.IsClean)
    {faults : Faults} (hfaults : ∀ f ∈ faults, Text.IsClean f.1 ∧ Text.IsClean f.2) :
    ∀ f ∈ records.foldl (fun faults r => addFault faults r.name r.messageText) faults,
      Text.IsClean f.1 ∧ Text.IsClean f.2 := by
  induction records generalizing faults with
  | nil => exact hfaults
  | cons r records ih =>
    rw [List.forall_mem_cons] at hrecords
    refine ih hrecords.2 fun f hf => ?_
    rcases mem_addFault hf with hf | rfl
    · exact hfaults f hf
    · exact hrecords.1

theorem exists_body_classify {records : List Record} (hrecords : ∀ r ∈ records, r.IsClean) :
    ∃ text, (classify records).answer.body = .ok text := by
  unfold classify
  split
  · exact exists_body (isClean_points _) fun _ hf => absurd hf List.not_mem_nil
  · exact exists_body (isClean_points _)
      (isClean_of_mem_foldl hrecords fun _ hf => absurd hf List.not_mem_nil)

end Problem

end Stockroom
