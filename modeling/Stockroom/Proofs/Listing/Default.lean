import Stockroom.Proofs.Listing.Written
import Stockroom.Settings

/-!
# Defaults as parameters

A list request without parameters is answered by the defaults of the configuration, which are not
checked as parameters are. They come to what the same defaults come to as parameters exactly if they
pass those checks: page, rows and offset have 64 bits, and the direction is one of the two.
-/

namespace Stockroom

open Number Text Listing

namespace ListConfig

/-- What a request without parameters asks for. -/
def defaults (config : ListConfig) : Listing := ⟨config.page, config.rows, {}, config.order⟩

/-- The parameters that spell the defaults out. -/
def spelled (config : ListConfig) : Params :=
  [("page", decimal config.page), ("rows", decimal config.rows), ("orderby", config.order.text)]

/-- The defaults pass the checks that parameters are put to. -/
structure Askable (config : ListConfig) : Prop where
  page : config.page ≤ maxInt64
  rows : config.rows ≤ maxInt64
  offset : (config.page - 1) * config.rows ≤ maxInt64
  direction : config.order.direction ∈ directions.map points

end ListConfig

namespace Listing

variable {ps : Params} {name : Points} {config : ListConfig} {q : Listing}

/-- A client that names the page, the rows and the order gets this request. -/
structure AskedBy (q : Listing) (ps : Params) (config : ListConfig) : Prop where
  page : value ps "page" ≠ []
  rows : value ps "rows" ≠ []
  order : value ps "orderby" ≠ []
  read : ofParams ps config = .ok q

/-! ## No parameters -/

theorem filterOf_nil : filterOf [] = .ok {} := by
  have hunknown : unknownNames [] = [] := unknownNames_eq_nil fun p hp => absurd hp List.not_mem_nil
  rw [filterOf, hunknown]
  rfl

theorem ofParams_nil (config : ListConfig) :
    ofParams [] config =
      if maxInt64 < (config.page - 1) * config.rows then .error (.bad "page" .pageOutOfRange)
      else .ok config.defaults := by
  split
  · next hoffset =>
    rw [ofParams]
    show (if maxInt64 < (config.page - 1) * config.rows then _ else _) = _
    rw [if_pos hoffset]
    rfl
  · next hoffset => exact ofParams_of_parts rfl rfl (Int.not_lt.1 hoffset) filterOf_nil rfl

/-! ## What a client can ask for -/

theorem exists_of_param_eq_ok {α : Type} {read : Points → Except ParamFault α} {o : Option α}
    (hne : value ps name ≠ []) (h : param ps name read = .ok o) :
    ∃ a, o = some a ∧ read (value ps name) = .ok a := by
  cases o with
  | none =>
    unfold param at h
    rw [if_neg hne] at h
    split at h <;> cases h
  | some a => exact ⟨a, rfl, (read_of_param h).2⟩

theorem bounds_of_asked {default n : Int} (hne : value ps name ≠ [])
    (h : positiveInt ps name default = .ok n) : 1 ≤ n ∧ n ≤ maxInt64 := by
  obtain ⟨result, hparam, rfl⟩ := exists_of_map_eq_ok h
  obtain ⟨n, rfl, hread⟩ := exists_of_param_eq_ok hne hparam
  exact bounds_of_readPositive hread

theorem askable_of_askedBy (h : config.defaults.AskedBy ps config) : config.Askable := by
  obtain ⟨hpage, hrows, hoffset, -, horder⟩ := ofParams_eq_ok h.read
  obtain ⟨result, hparam, hresult⟩ := exists_of_map_eq_ok horder
  obtain ⟨o, rfl, hread⟩ := exists_of_param_eq_ok h.order hparam
  have ho : o = config.order := hresult
  exact ⟨(bounds_of_asked h.page hpage).2, (bounds_of_asked h.rows hrows).2, hoffset,
    ho ▸ (mem_of_readOrder hread).2⟩

/-! ## The defaults spelled out -/

theorem spelled_writes (config : ListConfig) : config.defaults.WrittenIn config.spelled where
  known := by
    have hnames : ∀ n ∈ config.spelled.map Prod.fst, n ∈ filterNames ++ reservedNames := by
      show ∀ n ∈ reservedNames, n ∈ filterNames ++ reservedNames
      decide
    exact fun p hp => hnames _ (List.mem_map_of_mem hp)
  page := rfl
  rows := rfl
  order := rfl
  id := rfl
  name := rfl
  cost := rfl
  quantity := rfl
  userId := rfl

theorem filterOf_spelled (config : ListConfig) : filterOf config.spelled = .ok {} := by
  rw [filterOf, if_neg (not_not_intro (unknownNames_eq_nil (spelled_writes config).known))]
  rfl

theorem spelled_askedBy (h : config.Askable)
    (hcolumns : ∀ field ∈ config.sortable, field ∈ ListConfig.standard.sortable) :
    config.defaults.AskedBy config.spelled config := by
  have hwritten := spelled_writes config
  have hcolumn := hcolumns _ config.order_sortable
  have hpage : positiveInt config.spelled "page" config.page = .ok config.page :=
    positiveInt_decimal hwritten.page ⟨config.one_le_page, h.page⟩
  have hrows : positiveInt config.spelled "rows" config.rows = .ok config.rows :=
    positiveInt_decimal hwritten.rows ⟨config.one_le_rows, h.rows⟩
  have horder := orderOf_text hwritten.order config.order_sortable hcolumn h.direction
  exact ⟨hwritten.page ▸ decimal_ne_nil _, hwritten.rows ▸ decimal_ne_nil _,
    hwritten.order ▸ OrderBy.text_ne_nil _,
    ofParams_of_parts hpage hrows h.offset (filterOf_spelled config) horder⟩

/-- A request without parameters falls back to the defaults, unless its page starts beyond 64 bits.
It is what the same defaults come to when they are spelled out, and what some client could have
asked for by name, exactly if the defaults pass the checks that parameters are put to. -/
theorem defaults_askable_iff (config : ListConfig)
    (hcolumns : ∀ field ∈ config.sortable, field ∈ ListConfig.standard.sortable) :
    (ofParams [] config =
      if maxInt64 < (config.page - 1) * config.rows then .error (.bad "page" .pageOutOfRange)
      else .ok config.defaults) ∧
    ((∃ q, ofParams [] config = .ok q ∧ ofParams config.spelled config = .ok q) ↔
      config.Askable) ∧
    ∀ q, ofParams [] config = .ok q → ((∃ ps, q.AskedBy ps config) ↔ config.Askable) := by
  have hdefaults {q : Listing} (h : ofParams [] config = .ok q) : q = config.defaults := by
    rw [ofParams_nil] at h
    split at h
    · cases h
    · exact (Except.ok.inj h).symm
  have hspelled (h : config.Askable) := spelled_askedBy h hcolumns
  refine ⟨ofParams_nil config, ⟨?_, fun h => ?_⟩, fun q hq => ⟨?_, fun h => ?_⟩⟩
  · rintro ⟨q, hq, hread⟩
    obtain rfl := hdefaults hq
    have hwritten := spelled_writes config
    exact askable_of_askedBy ⟨hwritten.page ▸ decimal_ne_nil _, hwritten.rows ▸ decimal_ne_nil _,
      hwritten.order ▸ OrderBy.text_ne_nil _, hread⟩
  · exact ⟨_, by rw [ofParams_nil, if_neg (Int.not_lt.2 h.offset)], (hspelled h).read⟩
  · rintro ⟨ps, hasked⟩
    exact askable_of_askedBy (hdefaults hq ▸ hasked)
  · exact ⟨_, hdefaults hq ▸ hspelled h⟩

theorem standard_defaults_spelled :
    ∃ q, ofParams [] .standard = .ok q ∧ ofParams ListConfig.standard.spelled .standard = .ok q :=
  (defaults_askable_iff .standard fun _ h => h).2.1.2
    ⟨by decide, by decide, by decide, by decide⟩

/-- Settings with the third of the largest pages, as the environment gives them. -/
def farSettings : Settings := { page := 3, rows := maxInt64 }

/-- An order with its direction in small letters. -/
def smallOrder : OrderBy := ⟨"name", "desc"⟩

/-- Two configurations that are made, one of them from settings. Without parameters the first
refuses every request for its page, and the second comes to a direction that is none, while the same
default as a parameter comes to another one. -/
theorem far_defaults_refused :
    (∃ config, farSettings.listConfig = .ok config ∧
      ofParams [] config = .error (.bad "page" .pageOutOfRange)) ∧
    ∃ config, ListConfig.make 1 10 ListConfig.standard.sortable smallOrder = .ok config ∧
      ofParams [] config = .ok ⟨1, 10, {}, smallOrder⟩ ∧
      ofParams config.spelled config = .ok ⟨1, 10, {}, ⟨"name", "DESC"⟩⟩ := by
  refine ⟨⟨⟨3, maxInt64, _, _, _, _, _⟩, rfl, ?_⟩, ⟨⟨1, 10, _, smallOrder, _, _, _⟩, rfl, ?_, ?_⟩⟩
  · rw [ofParams_nil, if_pos (by decide)]
  · rw [ofParams_nil, if_neg (by decide)]
    rfl
  · exact ofParams_of_parts (eq_ok_of_toOption (by decide)) (eq_ok_of_toOption (by decide))
      (by decide) (filterOf_spelled _) (eq_ok_of_toOption (by decide))

end Listing

end Stockroom
