import Stockroom.Proofs.Listing

/-!
# What is wrong with a list request

A request is at fault in one of three ways: some names in it mean nothing, or the text of one
parameter is at fault by itself, or the page that it asks for begins too far out. A request with
none of these is read. What a request comes to depends on the texts that are not empty and on the
set of names that mean nothing.
-/

namespace Stockroom.Listing

open Number Text

/-! ## Parameters with a meaning -/

/-- The parameters that mean something in a list request. -/
inductive Parameter where
  | page
  | rows
  | id
  | name
  | cost
  | quantity
  | userId
  | order
  deriving DecidableEq

namespace Parameter

def text : Parameter → Points
  | page => "page"
  | rows => "rows"
  | id => "product_id"
  | name => "name"
  | cost => "cost"
  | quantity => "quantity"
  | userId => "user_id"
  | order => "orderby"

/-- A text is at fault by itself, whatever the other parameters are. Any text is a name. -/
def Rejects (config : ListConfig) (raw : Points) (f : ParamFault) : Parameter → Prop
  | page | rows => readPositive raw = .error f
  | id | userId => readId raw = .error f
  | name => False
  | cost => readCost raw = .error f
  | quantity => readQuantity raw = .error f
  | order => readOrder config.sortable raw = .error f

theorem text_mem (x : Parameter) : x.text ∈ filterNames ++ reservedNames := by
  cases x <;> decide

theorem exists_of_mem {n : Points} (h : n ∈ filterNames ++ reservedNames) :
    ∃ x : Parameter, n = x.text := by
  have hall : ∀ n ∈ filterNames ++ reservedNames, n ∈
    [page, rows, id, name, cost, quantity, userId, order].map text := by decide
  obtain ⟨x, -, rfl⟩ := List.mem_map.1 (hall n h)
  exact ⟨x, rfl⟩

end Parameter

variable {ps qs : Params} {config : ListConfig} {fault : ListFault}

/-! ## Names without a meaning -/

/-- All names of parameters that mean nothing, each once and in the order of their points. -/
structure Unknown (ps : Params) (names : List Points) : Prop where
  sorted : names.Pairwise fun a b => lePoints a b = true
  nodup : names.Nodup
  mem_iff : ∀ n, n ∈ names ↔ n ∈ ps.map Prod.fst ∧ ∀ x : Parameter, n ≠ x.text

theorem unknown_unknownNames (ps : Params) : Unknown ps (unknownNames ps) where
  sorted := by
    unfold unknownNames
    apply List.pairwise_mergeSort
    · intro a b c
      exact lePoints_trans
    · exact lePoints_total
  nodup := (List.mergeSort_perm _ _).nodup_iff.2 (nodup_eraseDups _)
  mem_iff n := by
    unfold unknownNames
    rw [List.mem_mergeSort, List.mem_eraseDups, List.mem_filter]
    refine and_congr_right fun _ => ?_
    rw [Bool.not_eq_true', ← Bool.not_eq_true, List.contains_iff_mem]
    constructor
    · rintro hn x rfl
      exact hn x.text_mem
    · intro hn hmem
      obtain ⟨x, rfl⟩ := Parameter.exists_of_mem hmem
      exact hn x rfl

/-- Requests with the same names that mean nothing have them in one order. -/
theorem Unknown.eq {names others : List Points} (h : Unknown ps names) (h' : Unknown qs others)
    (hmem : ∀ n, (∀ x : Parameter, n ≠ x.text) → (n ∈ ps.map Prod.fst ↔ n ∈ qs.map Prod.fst)) :
    names = others := by
  have hperm : names.Perm others := by
    rw [List.perm_ext_iff_of_nodup h.nodup h'.nodup]
    intro n
    rw [h.mem_iff, h'.mem_iff]
    exact and_congr_left (hmem n)
  exact hperm.eq_of_pairwise (fun _ _ _ _ => lePoints_antisymm) h.sorted h'.sorted

/-! ## What a fault blames -/

/-- What is at fault when a request is refused. -/
inductive Blames (ps : Params) (config : ListConfig) : ListFault → Prop
  /-- Names that mean nothing: all of them. -/
  | unknown {names : List Points} (hne : names ≠ []) (hnames : Unknown ps names) :
      Blames ps config (.unknown names)
  /-- A parameter with a text that is at fault by itself. -/
  | text (x : Parameter) {f : ParamFault} (hne : value ps x.text ≠ [])
      (hrejects : x.Rejects config (value ps x.text) f) : Blames ps config (.bad x.text f)
  /-- The page that is asked for, if its first row could not be numbered. -/
  | page {page rows : Int} (hne : value ps "page" ≠ [])
      (hpage : positiveInt ps "page" config.page = .ok page)
      (hrows : positiveInt ps "rows" config.rows = .ok rows)
      (hoffset : maxInt64 < (page - 1) * rows) : Blames ps config (.bad "page" .pageOutOfRange)

/-- Every name means something, every text is read, and the first row of the page can be
numbered. -/
structure Faultless (ps : Params) (config : ListConfig) : Prop where
  known : ∀ n ∈ ps.map Prod.fst, ∃ x : Parameter, n = x.text
  texts : ∀ (x : Parameter) (f : ParamFault), value ps x.text ≠ [] →
    ¬ x.Rejects config (value ps x.text) f
  offset : ∀ page rows, positiveInt ps "page" config.page = .ok page →
    positiveInt ps "rows" config.rows = .ok rows → (page - 1) * rows ≤ maxInt64

theorem Blames.not_faultless (h : Blames ps config fault) : ¬ Faultless ps config := by
  intro hnone
  cases h with
  | unknown hne hnames =>
    obtain ⟨n, hn⟩ := List.exists_mem_of_ne_nil _ hne
    obtain ⟨hmem, hunknown⟩ := (hnames.mem_iff n).1 hn
    obtain ⟨x, hx⟩ := hnone.known n hmem
    exact hunknown x hx
  | text x hne hrejects => exact hnone.texts x _ hne hrejects
  | page hne hpage hrows hoffset =>
    have := hnone.offset _ _ hpage hrows
    omega

/-- The names of a fault are those of parameters, and there is one. -/
def NamesParams (ps : Params) (fault : ListFault) : Prop :=
  fault.names ≠ [] ∧ ∀ n ∈ fault.names, n ∈ ps.map Prod.fst

theorem namesParams_bad {name : Points} (hne : value ps name ≠ []) (f : ParamFault) :
    NamesParams ps (.bad name f) := by
  refine ⟨List.cons_ne_nil _ _, fun n hn => ?_⟩
  rw [List.mem_singleton.1 hn]
  exact name_mem_of_value_ne_nil hne

theorem Blames.namesParams (h : Blames ps config fault) : NamesParams ps fault := by
  cases h with
  | unknown hne hnames => exact ⟨hne, fun n hn => ((hnames.mem_iff n).1 hn).1⟩
  | text _ hne _ => exact namesParams_bad hne _
  | page hne _ _ _ => exact namesParams_bad hne _

/-! ## Requests that are refused -/

theorem blames_of_param {α : Type} {read : Points → Except ParamFault α} (x : Parameter)
    (hrejects : ∀ f, read (value ps x.text) = .error f → x.Rejects config (value ps x.text) f)
    (h : param ps x.text read = .error fault) : Blames ps config fault := by
  unfold param at h
  split at h
  · cases h
  · next hne =>
    split at h
    · cases h
    · next f hread =>
      cases h
      exact .text x hne (hrejects f hread)

theorem blames_of_filterOf (h : filterOf ps = .error fault) : Blames ps config fault := by
  unfold filterOf at h
  split at h
  · next hne =>
    cases h
    exact .unknown hne (unknown_unknownNames ps)
  · rcases error_of_bind_eq_error h with h | ⟨_, -, h⟩
    · exact blames_of_param .id (fun _ hread => hread) h
    rcases error_of_bind_eq_error h with h | ⟨_, -, h⟩
    · exact blames_of_param .name (fun _ hread => by cases hread) h
    rcases error_of_bind_eq_error h with h | ⟨_, -, h⟩
    · exact blames_of_param .cost (fun _ hread => hread) h
    rcases error_of_bind_eq_error h with h | ⟨_, -, h⟩
    · exact blames_of_param .quantity (fun _ hread => hread) h
    rcases error_of_bind_eq_error h with h | ⟨_, -, h⟩
    · exact blames_of_param .userId (fun _ hread => hread) h
    · cases h

theorem blames_or_page (h : ofParams ps config = .error fault) :
    Blames ps config fault ∨
      fault = .bad "page" .pageOutOfRange ∧ value ps "page" = [] ∧ config.page ≠ 1 := by
  unfold ofParams at h
  rcases error_of_bind_eq_error h with h | ⟨page, hpage, h⟩
  · exact Or.inl (blames_of_param .page (fun _ hread => hread) (error_of_map_eq_error h))
  rcases error_of_bind_eq_error h with h | ⟨rows, hrows, h⟩
  · exact Or.inl (blames_of_param .rows (fun _ hread => hread) (error_of_map_eq_error h))
  split at h
  · next hoffset =>
    cases h
    by_cases hnil : value ps "page" = []
    · refine Or.inr ⟨rfl, hnil, fun hfirst => ?_⟩
      -- The offset of the first page is zero.
      rw [positiveInt, param_of_value_eq_nil hnil, hfirst] at hpage
      obtain rfl : 1 = page := Except.ok.inj hpage
      unfold maxInt64 at hoffset
      omega
    · exact Or.inl (.page hnil hpage hrows hoffset)
  · rcases error_of_bind_eq_error h with h | ⟨_, -, h⟩
    · exact Or.inl (blames_of_filterOf h)
    rcases error_of_bind_eq_error h with h | ⟨_, -, h⟩
    · exact Or.inl (blames_of_param .order (fun _ hread => hread) (error_of_map_eq_error h))
    · cases h

theorem blames_of_ofParams (hfirst : config.page = 1) (h : ofParams ps config = .error fault) :
    Blames ps config fault := by
  rcases blames_or_page h with h | ⟨-, -, hne⟩
  · exact h
  · exact absurd hfirst hne

theorem namesParams_or_page (h : ofParams ps config = .error fault) :
    NamesParams ps fault ∨
      fault = .bad "page" .pageOutOfRange ∧ value ps "page" = [] ∧ config.page ≠ 1 :=
  (blames_or_page h).imp_left Blames.namesParams

theorem namesParams_of_ofParams (hpage : config.page = 1)
    (h : ofParams ps config = .error fault) : NamesParams ps fault :=
  (blames_of_ofParams hpage h).namesParams

/-! ## Requests that are read -/

theorem ne_error_of_param {α : Type} {read : Points → Except ParamFault α} {name : Points}
    {o : Option α} (h : param ps name read = .ok o) (hne : value ps name ≠ []) (f : ParamFault) :
    read (value ps name) ≠ .error f := by
  intro hread
  unfold param at h
  rw [if_neg hne, hread] at h
  cases h

theorem unknownNames_of_filterOf {filter : Filter} (h : filterOf ps = .ok filter) :
    unknownNames ps = [] := by
  unfold filterOf at h
  split at h
  · cases h
  · next hnone => exact Decidable.not_not.1 hnone

theorem known_of_filterOf {filter : Filter} (h : filterOf ps = .ok filter) :
    ∀ n ∈ ps.map Prod.fst, ∃ x : Parameter, n = x.text := by
  intro n hn
  apply Classical.byContradiction
  intro hunknown
  have hmem := ((unknown_unknownNames ps).mem_iff n).2 ⟨hn, fun x hx => hunknown ⟨x, hx⟩⟩
  rw [unknownNames_of_filterOf h] at hmem
  exact List.not_mem_nil hmem

theorem faultless_of_ofParams {q : Listing} (h : ofParams ps config = .ok q) :
    Faultless ps config := by
  obtain ⟨hpage, hrows, hoffset, hfilter, horder⟩ := ofParams_eq_ok h
  obtain ⟨hid, -, ⟨_, hcost, -⟩, hquantity, huser⟩ := filterOf_eq_ok hfilter
  refine ⟨known_of_filterOf hfilter, fun x f hne hrejects => ?_, fun page rows hpage' hrows' => ?_⟩
  · cases x with
    | page =>
      obtain ⟨_, hparam, -⟩ := exists_of_map_eq_ok hpage
      exact ne_error_of_param hparam hne f hrejects
    | rows =>
      obtain ⟨_, hparam, -⟩ := exists_of_map_eq_ok hrows
      exact ne_error_of_param hparam hne f hrejects
    | id => exact ne_error_of_param hid hne f hrejects
    | name => exact hrejects
    | cost => exact ne_error_of_param hcost hne f hrejects
    | quantity => exact ne_error_of_param hquantity hne f hrejects
    | userId => exact ne_error_of_param huser hne f hrejects
    | order =>
      obtain ⟨_, hparam, -⟩ := exists_of_map_eq_ok horder
      exact ne_error_of_param hparam hne f hrejects
  · obtain rfl := Except.ok.inj (hpage.symm.trans hpage')
    obtain rfl := Except.ok.inj (hrows.symm.trans hrows')
    exact hoffset

/-- A list request is read if nothing is at fault. Otherwise it is refused with fields: all names in
it that mean nothing, or the one parameter in it whose text is at fault. -/
theorem read_or_blamed (ps : Params) :
    Faultless ps .standard ∧ (∃ q, ofParams ps .standard = .ok q) ∨
      ¬ Faultless ps .standard ∧ ∃ fault faults, ofParams ps .standard = .error fault ∧
        fault.problem = .fields faults ∧ faults.map Prod.fst = fault.names ∧ faults ≠ [] ∧
        (∀ f ∈ faults, f.1 ∈ ps.map Prod.fst) ∧ Blames ps .standard fault := by
  cases hread : ofParams ps .standard with
  | ok q => exact Or.inl ⟨faultless_of_ofParams hread, q, rfl⟩
  | error fault =>
    have hblames : Blames ps .standard fault := blames_of_ofParams rfl hread
    obtain ⟨hne, hnames⟩ := hblames.namesParams
    obtain ⟨faults, hproblem, htold, -⟩ := fault.exists_fields
    refine Or.inr ⟨hblames.not_faultless, fault, faults, rfl, hproblem, htold, ?_, ?_, hblames⟩
    · rintro rfl
      exact hne htold.symm
    · intro f hf
      apply hnames
      rw [← htold]
      exact List.mem_map_of_mem hf

/-! ## What a request depends on -/

/-- The text of a parameter, if it is there. Of two with one name the later counts. -/
def text? (ps : Params) (name : Points) : Option Points := ps.reverse.lookup name

/-- Two lists of parameters agree on every text that is not empty, and the same names in them mean
nothing. -/
structure Alike (ps qs : Params) : Prop where
  texts : ∀ (x : Parameter) (raw : Points), raw ≠ [] →
    (text? ps x.text = some raw ↔ text? qs x.text = some raw)
  unknown : ∀ n, (∀ x : Parameter, n ≠ x.text) → (n ∈ ps.map Prod.fst ↔ n ∈ qs.map Prod.fst)

theorem text?_eq_some_iff {name raw : Points} (hne : raw ≠ []) :
    text? ps name = some raw ↔ value ps name = raw := by
  unfold value text?
  cases ps.reverse.lookup name with
  | none => simpa using hne.symm
  | some other => simp

theorem Alike.value_eq (h : Alike ps qs) (x : Parameter) : value ps x.text = value qs x.text := by
  by_cases hps : value ps x.text = []
  · by_cases hqs : value qs x.text = []
    · rw [hps, hqs]
    · have htext := (h.texts x _ hqs).2 ((text?_eq_some_iff hqs).2 rfl)
      exact (text?_eq_some_iff hqs).1 htext
  · have htext := (h.texts x _ hps).1 ((text?_eq_some_iff hps).2 rfl)
    exact ((text?_eq_some_iff hps).1 htext).symm

/-- A list request comes to the same whatever else stands in it: the order of its parameters, empty
texts, and the texts under names that mean nothing. -/
theorem ofParams_eq_of_alike (h : Alike ps qs) (config : ListConfig) :
    ofParams ps config = ofParams qs config := by
  have hunknown : unknownNames ps = unknownNames qs :=
    (unknown_unknownNames ps).eq (unknown_unknownNames qs) h.unknown
  have hvalue : ∀ n ∈ filterNames ++ reservedNames, value ps n = value qs n := by
    intro n hn
    obtain ⟨x, rfl⟩ := Parameter.exists_of_mem hn
    exact h.value_eq x
  -- The texts are looked up under these names only, so each `value` is one of `hvalue`.
  simp (disch := decide) only [ofParams, positiveInt, filterOf, orderOf, param, hvalue, hunknown]

theorem unknowns_told_alike :
    ofParams [("zeta", "1"), ("rows", ""), ("page", "2"), ("alpha", "2")] .standard =
      ofParams [("alpha", ""), ("zeta", ""), ("page", "7"), ("page", "2")] .standard := by
  have hvalue (x : Parameter) :
      value [("zeta", "1"), ("rows", ""), ("page", "2"), ("alpha", "2")] x.text =
        value [("alpha", ""), ("zeta", ""), ("page", "7"), ("page", "2")] x.text := by
    cases x <;> decide
  apply ofParams_eq_of_alike
  refine ⟨fun x raw hne => ?_, fun n hn => ?_⟩
  · rw [text?_eq_some_iff hne, text?_eq_some_iff hne, hvalue x]
  · have hpage : n ≠ points "page" := hn .page
    have hrows : n ≠ points "rows" := hn .rows
    simp [hpage, hrows, or_comm]

end Stockroom.Listing
