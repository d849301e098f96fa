import Mathlib.Data.List.Basic
import Stockroom.Proofs.Number.Decimal
import Stockroom.Proofs.Payload

/-!
# What is said of a payload

Every field of a payload has a check of its own. A payload is valid exactly if no check finds a
fault and no other key is there. What is said of one that is not valid: first the fields with a
fault, in the order in which they are declared, then the keys that are no field, in the order in
which they came.
-/

namespace Stockroom.Payload

open Text

/-! ## Checks -/

def faultOf? {α : Type} : Except Fault α → Option Fault
  | .ok _ => none
  | .error fault => some fault

def requiredFault? {α : Type} (read : Json → Except Fault α) : Option Json → Option Fault
  | none => some .missing
  | some j => faultOf? (read j)

def optionalFault? {α : Type} (read : Json → Except Fault α) : Option Json → Option Fault
  | none => none
  | some .null => none
  | some j => faultOf? (read j)

/-- A field, and what is wrong with its value or with the lack of one. -/
structure Check where
  name : String
  fault? : Option Json → Option Fault

def newChecks : List Check :=
  [⟨"name", requiredFault? readName⟩, ⟨"cost", requiredFault? readCost⟩,
    ⟨"quantity", requiredFault? readQuantity⟩, ⟨"user_id", requiredFault? readId⟩]

def patchChecks : List Check :=
  [⟨"name", optionalFault? readName⟩, ⟨"cost", optionalFault? readCost⟩,
    ⟨"quantity", optionalFault? readQuantity⟩]

def Check.found? (c : Check) (ms : Members) : Option Fault := c.fault? (Json.get? ms c.name)

def found (checks : List Check) (ms : Members) : List (String × Fault) :=
  checks.filterMap fun c => (c.found? ms).map fun fault => (c.name, fault)

def checkIssues (checks : List Check) (ms : Members) : List Issue :=
  (found checks ms).map fun f => .at f.1 f.2

theorem checkIssues_nil (ms : Members) : checkIssues [] ms = [] := rfl

theorem checkIssues_cons (c : Check) (checks : List Check) (ms : Members) :
    checkIssues (c :: checks) ms =
      ((c.found? ms).map (Issue.at c.name)).toList ++ checkIssues checks ms := by
  unfold checkIssues found
  cases hfound : c.found? ms <;> simp [hfound]

theorem issues_located {α : Type} (name : String) (e : Except Fault α) :
    issues (located name e) = ((faultOf? e).map (Issue.at name)).toList := by
  cases e <;> rfl

theorem issues_required {α : Type} (ms : Members) (name : String) (read : Json → Except Fault α) :
    issues (required ms name read) =
      ((requiredFault? read (Json.get? ms name)).map (Issue.at name)).toList := by
  unfold required
  cases Json.get? ms name with
  | none => rfl
  | some j => exact issues_located name (read j)

theorem issues_optional {α : Type} (ms : Members) (name : String) (read : Json → Except Fault α) :
    issues (optional ms name read) =
      ((optionalFault? read (Json.get? ms name)).map (Issue.at name)).toList := by
  have hmap (e : Except Fault α) : faultOf? (e.map some) = faultOf? e := by cases e <;> rfl
  have hread (j : Json) : issues (located name ((read j).map some)) =
      ((faultOf? (read j)).map (Issue.at name)).toList := by
    rw [issues_located, hmap]
  unfold optional
  cases Json.get? ms name with
  | none => rfl
  | some j =>
    cases j with
    | null => rfl
    | _ => exact hread _

theorem exists_of_issues_eq_nil {α : Type} {e : Except Issue α} (h : issues e = []) :
    ∃ a, e = .ok a := by
  cases e with
  | ok a => exact ⟨a, rfl⟩
  | error issue => exact absurd h (List.cons_ne_nil issue [])

/-- Checks of distinct fields, none of which is called what a client is told of the whole body. -/
structure Distinct (checks : List Check) : Prop where
  names : (checks.map Check.name).Nodup
  named : ∀ c ∈ checks, c.name ≠ "" ∧ c.name ≠ "body"

/-- A reader of objects whose issues are those of some checks and of the keys that no check is
about. -/
structure Runs {α : Type} (checks : List Check) (validate : Json → Except (List Issue) α) : Prop
    extends Distinct checks where
  ok : ∀ {ms extras}, extraNames? (checks.map Check.name) ms = some extras →
    checkIssues checks ms ++ extraIssues extras = [] → ∃ a, validate (.object ms) = .ok a
  error : ∀ {ms extras}, extraNames? (checks.map Check.name) ms = some extras →
    checkIssues checks ms ++ extraIssues extras ≠ [] →
    validate (.object ms) = .error (checkIssues checks ms ++ extraIssues extras)

theorem checkIssues_newChecks (ms : Members) :
    checkIssues newChecks ms =
      issues (required ms "name" readName) ++ issues (required ms "cost" readCost) ++
        issues (required ms "quantity" readQuantity) ++ issues (required ms "user_id" readId) := by
  simp [newChecks, checkIssues_cons, checkIssues_nil, Check.found?, issues_required]

theorem checkIssues_patchChecks (ms : Members) :
    checkIssues patchChecks ms =
      issues (optional ms "name" readName) ++ issues (optional ms "cost" readCost) ++
        issues (optional ms "quantity" readQuantity) := by
  simp [patchChecks, checkIssues_cons, checkIssues_nil, Check.found?, issues_optional]

theorem distinct_newChecks : Distinct newChecks := ⟨by decide, by decide⟩

theorem distinct_patchChecks : Distinct patchChecks := ⟨by decide, by decide⟩

theorem runs_newProduct : Runs newChecks newProduct where
  toDistinct := distinct_newChecks
  ok {ms extras} hextras hnone := by
    rw [checkIssues_newChecks] at hnone
    simp only [List.append_eq_nil_iff, extraIssues, List.map_eq_nil_iff] at hnone
    obtain ⟨⟨⟨⟨hname, hcost⟩, hquantity⟩, hid⟩, rfl⟩ := hnone
    obtain ⟨name, hname⟩ := exists_of_issues_eq_nil hname
    obtain ⟨cost, hcost⟩ := exists_of_issues_eq_nil hcost
    obtain ⟨quantity, hquantity⟩ := exists_of_issues_eq_nil hquantity
    obtain ⟨id, hid⟩ := exists_of_issues_eq_nil hid
    refine ⟨⟨name, cost, quantity, id⟩, ofObject_eq_ok_iff.2 ⟨ms, [], rfl, hextras, ?_⟩⟩
    exact newProductOfMembers_eq_ok_iff.2 ⟨hname, hcost, hquantity, hid, rfl⟩
  error {ms extras} hextras hsome := by
    rw [checkIssues_newChecks] at hsome ⊢
    have hread : newProduct (.object ms) = newProductOfMembers ms extras := by
      have hfields : extraNames? newFields ms = some extras := hextras
      unfold newProduct ofObject
      simp only [hfields]
    rw [hread]
    unfold newProductOfMembers
    dsimp only
    split
    · next hname hcost hquantity hid =>
      simp [hname, hcost, hquantity, hid, issues, extraIssues] at hsome
    · rfl

theorem runs_patch : Runs patchChecks patch where
  toDistinct := distinct_patchChecks
  ok {ms extras} hextras hnone := by
    rw [checkIssues_patchChecks] at hnone
    simp only [List.append_eq_nil_iff, extraIssues, List.map_eq_nil_iff] at hnone
    obtain ⟨⟨⟨hname, hcost⟩, hquantity⟩, rfl⟩ := hnone
    obtain ⟨name, hname⟩ := exists_of_issues_eq_nil hname
    obtain ⟨cost, hcost⟩ := exists_of_issues_eq_nil hcost
    obtain ⟨quantity, hquantity⟩ := exists_of_issues_eq_nil hquantity
    refine ⟨⟨name, cost, quantity⟩, ofObject_eq_ok_iff.2 ⟨ms, [], rfl, hextras, ?_⟩⟩
    exact patchOfMembers_eq_ok_iff.2 ⟨hname, hcost, hquantity, rfl⟩
  error {ms extras} hextras hsome := by
    rw [checkIssues_patchChecks] at hsome ⊢
    have hread : patch (.object ms) = patchOfMembers ms extras := by
      have hfields : extraNames? patchFields ms = some extras := hextras
      unfold patch ofObject
      simp only [hfields]
    rw [hread]
    unfold patchOfMembers
    dsimp only
    split
    · next hname hcost hquantity =>
      simp [hname, hcost, hquantity, issues, extraIssues] at hsome
    · rfl

/-! ## Keys that are no field -/

/-- An object whose keys have no lone surrogates. -/
def HasTextKeys (ms : Members) : Prop := ∀ m ∈ ms, ∃ key : String, m.1 = points key

instance (ms : Members) : Decidable (HasTextKeys ms) :=
  decidable_of_iff (∀ m ∈ ms, (ofPoints? m.1).isSome = true) <| by
    refine forall_congr' fun m => imp_congr_right fun _ => ?_
    rw [Option.isSome_iff_exists]
    exact exists_congr fun key =>
      ⟨fun h => (points_of_ofPoints? h).symm, fun h => h ▸ ofPoints?_points key⟩

/-- The keys that are no field, in the order in which they came. -/
def unknownKeys (fields : List String) (ms : Members) : List Points :=
  (ms.map (·.1)).filter fun key => !(fields.map points).contains key

theorem exists_extras {ms : Members} (hms : HasTextKeys ms) (fields : List String) :
    ∃ extras, extraNames? fields ms = some extras ∧
      extras.map points = unknownKeys fields ms := by
  have hkeys : ∀ key ∈ unknownKeys fields ms, ∃ name, ofPoints? key = some name ∧
      points name = key := by
    intro key hkey
    obtain ⟨m, hm, rfl⟩ := List.mem_map.1 (List.mem_of_mem_filter hkey)
    obtain ⟨name, hname⟩ := hms m hm
    exact ⟨name, hname ▸ ofPoints?_points name, hname.symm⟩
  refine ⟨(unknownKeys fields ms).map fun key => (ofPoints? key).getD "", ?_, ?_⟩
  · refine Number.mapM_eq_some_map fun key hkey => ?_
    obtain ⟨name, hname, -⟩ := hkeys key hkey
    rw [hname]
    rfl
  · rw [List.map_map]
    conv => rhs; rw [← List.map_id (unknownKeys fields ms)]
    refine List.map_congr_left fun key hkey => ?_
    obtain ⟨name, hname, hpoints⟩ := hkeys key hkey
    simp [hname, hpoints]

/-! ## Reports -/

/-- The name under which a client is told of a key. -/
def shownKey (key : Points) : Points := if key = [] then "body" else key

/-- What a client is told of an object: the fields with a fault in the order of the checks, then the
keys that are no field in theirs, each name once. -/
def report (checks : List Check) (ms : Members) : Faults :=
  ((found checks ms).map fun f => (points f.1, points f.2.message)) ++
    ((unknownKeys (checks.map Check.name) ms).map shownKey).eraseDups.map fun name =>
      (name, points Fault.unexpected.message)

theorem not_isDecode_at (name : String) (fault : Fault) :
    (Issue.at name fault).record.isDecode = false := by
  unfold Issue.record Issue.at Problem.Record.isDecode
  cases fault <;> simp [Fault.kind] <;> decide

theorem name_record_at (name : String) (fault : Fault) :
    (Issue.at name fault).record.name = shownKey (points name) := by
  unfold Issue.record Issue.at Problem.Record.name shownKey
  simp [List.intercalate, Problem.Part.text]

theorem messageText_record_at (name : String) (fault : Fault) :
    (Issue.at name fault).record.messageText = points fault.message := rfl

theorem mem_found {checks : List Check} {ms : Members} {f : String × Fault}
    (h : f ∈ found checks ms) : ∃ c ∈ checks, c.name = f.1 ∧ c.found? ms = some f.2 := by
  obtain ⟨c, hc, hfound⟩ := List.mem_filterMap.1 h
  obtain ⟨fault, hfault, rfl⟩ := Option.map_eq_some_iff.1 hfound
  exact ⟨c, hc, rfl, hfault⟩

theorem shownKey_points {name : String} (h : name ≠ "") : shownKey (points name) = points name := by
  have hne : points name ≠ [] := fun hnil => h (points_injective hnil)
  unfold shownKey
  rw [if_neg hne]

section

variable {checks : List Check} {ms : Members} (hchecks : Distinct checks)
include hchecks

theorem nodup_found (ms : Members) : ((found checks ms).map (·.1)).Nodup := by
  have hnames := hchecks.names
  unfold List.Nodup found at *
  rw [List.pairwise_map] at hnames ⊢
  rw [List.pairwise_filterMap]
  refine hnames.imp fun hne f hf g hg => ?_
  obtain ⟨fault, -, rfl⟩ := Option.map_eq_some_iff.1 hf
  obtain ⟨other, -, rfl⟩ := Option.map_eq_some_iff.1 hg
  exact hne

theorem shownKey_ne {key : Points} (hkey : key ∈ unknownKeys (checks.map Check.name) ms) {c : Check}
    (hc : c ∈ checks) : shownKey key ≠ points c.name := by
  intro hshown
  have hunknown : key ∉ (checks.map Check.name).map points := by
    simpa using (List.mem_filter.1 hkey).2
  unfold shownKey at hshown
  split at hshown
  · exact (hchecks.named c hc).2 (points_injective hshown).symm
  · exact hunknown (List.mem_map.2 ⟨c.name, List.mem_map_of_mem hc, hshown.symm⟩)

theorem shown_not_mem_found {name : Points}
    (hname : name ∈ (unknownKeys (checks.map Check.name) ms).map shownKey) :
    name ∉ (found checks ms).map fun f => points f.1 := by
  obtain ⟨key, hkey, rfl⟩ := List.mem_map.1 hname
  intro hmem
  obtain ⟨f, hf, hshown⟩ := List.mem_map.1 hmem
  obtain ⟨c, hc, hc', -⟩ := mem_found hf
  exact shownKey_ne hchecks hkey hc (hc' ▸ hshown.symm)

theorem nodup_points_found (ms : Members) :
    ((found checks ms).map fun f => points f.1).Nodup := by
  have hnames := (nodup_found hchecks ms).map fun _ _ => points_injective
  rwa [List.map_map] at hnames

/-- What the records of all issues say, before equal names are merged. -/
theorem told_records {extras : List String}
    (hextras : extras.map points = unknownKeys (checks.map Check.name) ms) :
    ((checkIssues checks ms ++ extraIssues extras).map Issue.record).map
        (fun r => (r.name, r.messageText)) =
      ((found checks ms).map fun f => (points f.1, points f.2.message)) ++
        ((unknownKeys (checks.map Check.name) ms).map shownKey).map fun name =>
          (name, points Fault.unexpected.message) := by
  rw [List.map_append, List.map_append, ← hextras]
  unfold checkIssues extraIssues
  simp only [List.map_map]
  congr 1
  · refine List.map_congr_left fun f hf => ?_
    obtain ⟨c, hc, hname, -⟩ := mem_found hf
    have hne : f.1 ≠ "" := hname ▸ (hchecks.named c hc).1
    simp [name_record_at, messageText_record_at, shownKey_points hne]
  · refine List.map_congr_left fun name _ => ?_
    simp [name_record_at, messageText_record_at]

theorem classify_issues {extras : List String}
    (hextras : extras.map points = unknownKeys (checks.map Check.name) ms) :
    Problem.classify ((checkIssues checks ms ++ extraIssues extras).map Issue.record) =
      .fields (report checks ms) := by
  have hdecode : ∀ r ∈ (checkIssues checks ms ++ extraIssues extras).map Issue.record,
      r.isDecode = false := by
    intro r hr
    obtain ⟨i, hi, rfl⟩ := List.mem_map.1 hr
    rcases List.mem_append.1 hi with hi | hi <;> obtain ⟨f, -, rfl⟩ := List.mem_map.1 hi <;>
      exact not_isDecode_at _ _
  have hdeclared : ((found checks ms).map fun f => (points f.1, points f.2.message)).foldl
      (fun fs f => Problem.addFault fs f.1 f.2) [] = _ :=
    Problem.foldl_addFault_of_nodup
      (by simpa [Function.comp_def] using nodup_points_found hchecks ms)
  rw [Problem.classify_of_not_isDecode hdecode, told_records hchecks hextras, List.foldl_append,
    hdeclared, List.nil_append, List.foldl_map, Problem.foldl_addFault_message,
    List.filter_eq_self.2]
  · rfl
  · intro name hname
    simpa using shown_not_mem_found hchecks hname

theorem nodup_report (ms : Members) : ((report checks ms).map (·.1)).Nodup := by
  have hnames : (report checks ms).map (·.1) = ((found checks ms).map fun f => points f.1) ++
      ((unknownKeys (checks.map Check.name) ms).map shownKey).eraseDups := by
    unfold report
    simp [Function.comp_def]
  rw [hnames, List.nodup_append]
  refine ⟨nodup_points_found hchecks ms, nodup_eraseDups _, ?_⟩
  rintro _ hfound name hname rfl
  exact shown_not_mem_found hchecks (List.mem_eraseDups.1 hname) hfound

theorem mem_report_iff {c : Check} (hc : c ∈ checks) :
    points c.name ∈ (report checks ms).map (·.1) ↔ ∃ fault, c.found? ms = some fault := by
  constructor
  · intro hmem
    obtain ⟨f, hf, hname⟩ := List.mem_map.1 hmem
    rcases List.mem_append.1 hf with hf | hf
    · obtain ⟨d, hd, rfl⟩ := List.mem_map.1 hf
      obtain ⟨c', hc', hd', hfault⟩ := mem_found hd
      have hsame : c' = c :=
        List.inj_on_of_nodup_map hchecks.names hc' hc (hd'.trans (points_injective hname))
      exact ⟨d.2, hsame ▸ hfault⟩
    · obtain ⟨shown, hshown, rfl⟩ := List.mem_map.1 hf
      obtain ⟨key, hkey, rfl⟩ := List.mem_map.1 (List.mem_eraseDups.1 hshown)
      exact absurd hname (shownKey_ne hchecks hkey hc)
  · rintro ⟨fault, hfault⟩
    have hf : (c.name, fault) ∈ found checks ms :=
      List.mem_filterMap.2 ⟨c, hc, by rw [hfault]; rfl⟩
    refine List.mem_map.2 ⟨(points c.name, points fault.message), ?_, rfl⟩
    exact List.mem_append_left _ (List.mem_map.2 ⟨_, hf, rfl⟩)

end

/-- An object in which no check finds a fault, and which has no other key. -/
structure Passes (checks : List Check) (ms : Members) : Prop where
  fields : ∀ c ∈ checks, c.found? ms = none
  keys : ∀ m ∈ ms, ∃ c ∈ checks, m.1 = points c.name

theorem found_eq_nil_iff {checks : List Check} {ms : Members} :
    found checks ms = [] ↔ ∀ c ∈ checks, c.found? ms = none := by
  unfold found
  simp [List.filterMap_eq_nil_iff]

theorem unknownKeys_eq_nil_iff {checks : List Check} {ms : Members} :
    unknownKeys (checks.map Check.name) ms = [] ↔ ∀ m ∈ ms, ∃ c ∈ checks, m.1 = points c.name := by
  unfold unknownKeys
  rw [List.filter_eq_nil_iff, List.forall_mem_map]
  refine forall_congr' fun m => imp_congr_right fun _ => ?_
  rw [Bool.not_eq_true, Bool.not_eq_false', List.contains_iff_mem, List.map_map, List.mem_map]
  simp only [Function.comp_apply, eq_comm]

theorem eraseDups_eq_nil_iff {names : List Points} : names.eraseDups = [] ↔ names = [] := by
  cases names with
  | nil => simp
  | cons name names => simp [List.eraseDups_cons]

theorem report_eq_nil_iff {checks : List Check} {ms : Members} :
    report checks ms = [] ↔ Passes checks ms := by
  unfold report
  rw [List.append_eq_nil_iff, List.map_eq_nil_iff, List.map_eq_nil_iff, eraseDups_eq_nil_iff,
    List.map_eq_nil_iff, found_eq_nil_iff, unknownKeys_eq_nil_iff]
  exact ⟨fun h => ⟨h.1, h.2⟩, fun h => ⟨h.1, h.2⟩⟩

theorem issues_eq_nil_iff {checks : List Check} {ms : Members} {extras : List String}
    (hextras : extras.map points = unknownKeys (checks.map Check.name) ms) :
    checkIssues checks ms ++ extraIssues extras = [] ↔ Passes checks ms := by
  have hunknown : extras = [] ↔ unknownKeys (checks.map Check.name) ms = [] := by
    rw [← hextras, List.map_eq_nil_iff]
  unfold checkIssues extraIssues
  rw [List.append_eq_nil_iff, List.map_eq_nil_iff, List.map_eq_nil_iff, hunknown, found_eq_nil_iff,
    unknownKeys_eq_nil_iff]
  exact ⟨fun h => ⟨h.1, h.2⟩, fun h => ⟨h.1, h.2⟩⟩

end Stockroom.Payload
