import Stockroom.Proofs.Server.Create
import Stockroom.Proofs.Server.Owner

/-!
# Products found by their own fields

A body shows the texts of the fields of a product. A list that is asked for some of them has the
product: each text is read as the field that it was written from, and a name contains itself. So the
filter selects the row of the product, and one page of the list holds it.
-/

namespace Stockroom

open Http Listing Number Service Text

/-! ## Texts of a body -/

namespace ProductReading

/-- The characters of a string, or the digits of an integer. -/
def shown? : Json → Option Points
  | .string p => some p
  | .integer n => some (decimal n)
  | _ => none

/-- The text that a body shows for one of its members. -/
def shownText? (body member : String) : Option Points :=
  match Json.read Http.bodyDepth (points body) with
  | .ok (.object ms) => (Json.get? ms member).bind shown?
  | _ => none

theorem shownText?_view {p : StoredProduct} (hrow : p.row.WellFormed) :
    shownText? p.view.json.write "id" = some (points p.id.text) ∧
      shownText? p.view.json.write "name" = some (points p.name) ∧
      shownText? p.view.json.write "quantity" = some (decimal p.quantity) ∧
      shownText? p.view.json.write "user_id" = some (points p.userId.text) := by
  have hfits : fitsInt64 p.view.quantity = true := hrow.quantity
  rw [fitsInt64, decide_eq_true_eq] at hfits
  have hreadable : Json.Readable _ Http.bodyDepth p.view.wire :=
    ProductView.readable_wire (isString_points p.name.toList)
      (Json.isShort_digitLimit (natAbs_lt_of_int64 (by omega)))
  have hread := Json.read_write hreadable
  rw [ProductView.write_wire] at hread
  unfold shownText?
  rw [hread]
  simp only [ProductView.wire, Json.fields, Json.get?_map_points]
  simp [List.lookup_cons, shown?, Json.text, StoredProduct.view, StoredProduct.toProduct,
    Product.view]

end ProductReading

/-! ## Parameters with these texts -/

namespace Listing

variable {body : String} {ps : Params} {config : ListConfig}

/-- The parameters that a list can ask for a product by, each with the member that has its text. -/
def ownFields : List (String × String) :=
  [("product_id", "id"), ("name", "name"), ("quantity", "quantity"), ("user_id", "user_id")]

/-- Parameters that ask for texts of a body, for some or for all of them, in an order perhaps. -/
def AsksFor (body : String) (ps : Params) : Prop :=
  ∀ q ∈ ps, q.1 = points "orderby" ∨ ∃ field ∈ ownFields,
    q.1 = points field.1 ∧ ProductReading.shownText? body field.2 = some q.2

namespace AsksFor

theorem known (h : AsksFor body ps) : ∀ q ∈ ps, q.1 ∈ filterNames ++ reservedNames := by
  intro q hq
  rcases h q hq with hname | ⟨field, hfield, hname, -⟩
  · rw [hname]
    decide
  · have hall : ∀ field ∈ ownFields, points field.1 ∈ filterNames ++ reservedNames := by decide
    rw [hname]
    exact hall field hfield

theorem value_eq_nil (h : AsksFor body ps) {name : String} (horder : name ≠ "orderby")
    (hown : ∀ field ∈ ownFields, name ≠ field.1) : value ps name = [] := by
  by_contra hne
  rcases h _ (mem_of_value_ne_nil hne) with hname | ⟨field, hfield, hname, -⟩
  · exact horder (points_injective hname)
  · exact hown field hfield (points_injective hname)

theorem value_eq (h : AsksFor body ps) {name member : String} {text : Points}
    (hfield : (name, member) ∈ ownFields)
    (hshown : ProductReading.shownText? body member = some text) :
    value ps name = [] ∨ value ps name = text := by
  by_cases hne : value ps name = []
  · exact Or.inl hne
  · refine Or.inr ?_
    have hnames : (ownFields.map Prod.fst).Nodup ∧ ∀ field ∈ ownFields, field.1 ≠ "orderby" := by
      decide
    rcases h _ (mem_of_value_ne_nil hne) with hname | ⟨field, hother, hname, htext⟩
    · exact absurd (points_injective hname) (hnames.2 _ hfield)
    · obtain rfl := List.inj_on_of_nodup_map hnames.1 hother hfield (points_injective hname).symm
      exact Option.some.inj (htext.symm.trans hshown)

theorem exists_param (h : AsksFor body ps) {name member : String} {text : Points}
    (hfield : (name, member) ∈ ownFields)
    (hshown : ProductReading.shownText? body member = some text) {α : Type}
    {read : Points → Except ParamFault α} {a : α} (hne : text ≠ []) (hread : read text = .ok a) :
    ∃ o, param ps name read = .ok o ∧ ∀ b ∈ o, b = a := by
  rcases h.value_eq hfield hshown with hvalue | hvalue
  · exact ⟨none, param_of_value_eq_nil hvalue, fun b hb => absurd hb (Option.not_mem_none b)⟩
  · refine ⟨some a, param_of_read (hvalue ▸ hne) (hvalue ▸ hread), ?_⟩
    rintro b ⟨⟩
    rfl

end AsksFor

end Listing

/-! ## Filters by the fields of a product -/

/-- A filter that sets no field to anything but what a product has there. -/
structure Filter.IsOf (f : Filter) (p : StoredProduct) : Prop where
  id : ∀ id ∈ f.id, id = p.id
  name : ∀ name ∈ f.name, name = points p.name
  cost : f.cost = none
  quantity : ∀ quantity ∈ f.quantity, quantity = p.quantity
  userId : ∀ id ∈ f.userId, id = p.userId

namespace Filter.IsOf

variable {f : Filter} {p : StoredProduct}

theorem satisfies (h : f.IsOf p) : Row.satisfies f p.row = true := by
  have hallows {α : Type} {test : α → Bool} {o : Option α} {a : α} (ho : ∀ b ∈ o, b = a)
      (ha : test a = true) : Row.allows test o = true := by
    cases o with
    | none => rfl
    | some b => exact ho b rfl ▸ ha
  have hcost : Row.allows (fun cost : Amount => cost.equals p.row.cost) f.cost = true := by
    rw [h.cost]
    rfl
  simp only [Row.satisfies, Bool.and_eq_true]
  exact ⟨⟨⟨⟨hallows h.id (beq_self_eq_true _), hallows h.name (Like.nameMatches_self _)⟩, hcost⟩,
    hallows h.quantity (beq_self_eq_true _)⟩, hallows h.userId (beq_self_eq_true _)⟩

theorem fits (h : f.IsOf p) (hrow : p.row.WellFormed)
    (hpattern : Like.patternBytes p.name ≤ Like.patternLimit) : f.Fits where
  name term hterm := by
    rw [h.name term hterm]
    exact ⟨isClean_points p.name, hpattern⟩
  cost a ha := by
    rw [h.cost] at ha
    cases ha
  quantity n hn := by
    rw [h.quantity n hn]
    exact hrow.quantity

end Filter.IsOf

namespace Listing

variable {ps : Params} {config : ListConfig}

theorem AsksFor.exists_filter {p : StoredProduct} (hrow : p.row.Sound)
    (h : AsksFor p.view.json.write ps) : ∃ f, filterOf ps = .ok f ∧ f.IsOf p := by
  obtain ⟨hid, hname, hquantity, huser⟩ := ProductReading.shownText?_view hrow.toWellFormed
  have hrange : -maxInt64 - 1 < p.quantity ∧ p.quantity < maxInt64 + 1 := by
    have hone : 1 ≤ p.quantity := hrow.one_le_quantity
    have hfits : fitsInt64 p.quantity = true := hrow.quantity
    rw [fitsInt64, decide_eq_true_eq] at hfits
    omega
  obtain ⟨id, hidParam, hownId⟩ : ∃ o, param ps "product_id" readId = .ok o ∧ ∀ b ∈ o, b = p.id :=
    h.exists_param (by decide) hid (id_text_ne_nil p.id) (readId_text p.id)
  obtain ⟨name, hnameParam, hownName⟩ : ∃ o, param ps "name" .ok = .ok o ∧
      ∀ b ∈ o, b = points p.name :=
    h.exists_param (by decide) hname (points_ne_nil hrow.name) rfl
  obtain ⟨quantity, hquantityParam, hownQuantity⟩ : ∃ o, param ps "quantity" readQuantity = .ok o ∧
      ∀ b ∈ o, b = p.quantity :=
    h.exists_param (by decide) hquantity (decimal_ne_nil _) (readQuantity_decimal hrange)
  obtain ⟨user, huserParam, hownUser⟩ : ∃ o, param ps "user_id" readId = .ok o ∧
      ∀ b ∈ o, b = p.userId :=
    h.exists_param (by decide) huser (id_text_ne_nil p.userId) (readId_text p.userId)
  have hcostParam : param ps "cost" readCost = .ok none :=
    param_of_value_eq_nil (h.value_eq_nil (by decide) (by decide))
  exact ⟨_, filterOf_of_params h.known hidParam hnameParam hcostParam hquantityParam huserParam,
    hownId, hownName, rfl, hownQuantity, hownUser⟩

theorem AsksFor.ofParams_eq {p : StoredProduct} (hrow : p.row.Sound)
    (h : AsksFor p.view.json.write ps) (hoffset : (config.page - 1) * config.rows ≤ maxInt64)
    {order : OrderBy} (horder : orderOf ps config = .ok order) :
    ∃ f, ofParams ps config = .ok ⟨config.page, config.rows, f, order⟩ ∧ f.IsOf p := by
  obtain ⟨f, hfilter, hf⟩ := h.exists_filter hrow
  have hdefault {name : String} (default : Int) (hname : name ≠ "orderby")
      (hown : ∀ field ∈ ownFields, name ≠ field.1) :
      positiveInt ps name default = .ok default := by
    rw [positiveInt, param_of_value_eq_nil (h.value_eq_nil hname hown)]
    rfl
  have hpage : positiveInt ps "page" config.page = .ok config.page :=
    hdefault config.page (by decide) (by decide)
  have hrows : positiveInt ps "rows" config.rows = .ok config.rows :=
    hdefault config.rows (by decide) (by decide)
  exact ⟨f, ofParams_of_parts hpage hrows hoffset hfilter horder, hf⟩

end Listing

/-! ## Pages -/

namespace Catalogue

variable {c : Catalogue}

theorem exists_page (hc : c.WellFormed) {f : Filter} (hf : f.Fits) {order : OrderBy}
    {field : SortField} (hfield : order.column? = some field) {rows : Int}
    (hrows : 1 ≤ rows ∧ rows ≤ maxInt64) {p : StoredProduct} (hrow : c.row? p.id = some p.row)
    (hselected : Row.satisfies f p.row = true) :
    ∃ total : Nat, (count f c).result = .ok total ∧ 1 ≤ total ∧
      ∃ page : Int, 1 ≤ page ∧ (page - 1) * rows < total ∧
        ∀ other : Int, 1 ≤ other → (other - 1) * rows ≤ maxInt64 →
          ∃ found, (query f order other rows c).result = .ok found ∧
            (p ∈ found ↔ other = page) := by
  obtain ⟨store, n, k, rfl, hstore⟩ := hc.exists_ready
  rw [row?_ready] at hrow
  obtain ⟨before, behind, hl, hlists⟩ :=
    exists_lists_around hstore order field (Store.mem_of_find? hrow) hselected
  have hcount := count_of_fits (n := n) (k := k) hf.filterFault?_eq_none
    (hf.patternFault_eq_false store)
  rw [← hlists.rows.length_eq, List.length_map] at hcount
  refine ⟨_, hcount, ?_, before.length / rows + 1, ?_, ?_, fun other hother hoffset => ?_⟩
  · rw [List.length_append, List.length_cons]
    omega
  · have : 0 ≤ (before.length : Int) / rows := Int.ediv_nonneg (by omega) (by omega)
    omega
  · have := Int.ediv_mul_le before.length (b := rows) (by omega)
    rw [Int.add_sub_cancel, List.length_append, List.length_cons]
    omega
  · refine ⟨_, query_page hf hfield hl hother hrows hoffset n k, ?_⟩
    rw [mem_window_iff hlists.nodup, Server.place_iff hrows.1 hother]

end Catalogue

namespace Server

/-- Whatever texts of a product a list is asked for by, the product is selected and counted, and of
all pages one has it. That page begins before the end of what is counted. -/
theorem found_by_own_fields (settings : Settings) (src : Sources) (requests : List Request)
    {p : StoredProduct}
    (hrow : ((fresh settings).after src requests).catalogue.row? p.id = some p.row)
    (hpattern : Like.patternBytes p.name ≤ Like.patternLimit) {ps : Params}
    (hps : AsksFor p.view.json.write ps) {config : ListConfig}
    (hsortable : ∀ field ∈ config.sortable, field ∈ ListConfig.standard.sortable)
    (hrows : config.rows ≤ maxInt64) (hoffset : (config.page - 1) * config.rows ≤ maxInt64)
    {order : OrderBy} (horder : orderOf ps config = .ok order) :
    let c := ((fresh settings).after src requests).catalogue
    ∃ f, ofParams ps config = .ok ⟨config.page, config.rows, f, order⟩ ∧
      Row.satisfies f p.row = true ∧
      ∃ total : Nat, (Catalogue.count f c).result = .ok total ∧ 1 ≤ total ∧
        ∃ page : Int, 1 ≤ page ∧ (page - 1) * config.rows < total ∧
          ∀ other : Int, 1 ≤ other → (other - 1) * config.rows ≤ maxInt64 →
            ∃ found, (Catalogue.query f order other config.rows c).result = .ok found ∧
              (p ∈ found ↔ other = page) := by
  intro c
  have hc : c.Sound := sound_after settings src requests
  have hsound : p.row.Sound := by
    obtain ⟨store, n, k, hready, hstore⟩ := hc.exists_ready
    have hfind : c.row? p.id = some p.row := hrow
    rw [hready, Catalogue.row?_ready] at hfind
    exact hstore.rows _ (Store.mem_of_find? hfind)
  obtain ⟨f, hparams, hf⟩ := hps.ofParams_eq hsound hoffset horder
  obtain ⟨field, hfield⟩ := exists_column (hsortable _ (field_mem_of_orderOf horder))
  exact ⟨f, hparams, hf.satisfies, Catalogue.exists_page hc.wellFormed
    (hf.fits hsound.toWellFormed hpattern) hfield ⟨config.one_le_rows, hrows⟩ hrow hf.satisfies⟩

theorem apples_found_by_name_and_quantity :
    let c := ((fresh {}).after .counting [postOfApples 3]).catalogue
    let ps : Params := [("name", points "apple"), ("quantity", points "3"),
      ("orderby", points "cost, desc")]
    let order : OrderBy := ⟨SortField.cost.text, descending⟩
    c.row? (applesAt 0).id = some (applesAt 0).row ∧
      Like.patternBytes (applesAt 0).name ≤ Like.patternLimit ∧
      AsksFor (applesAt 0).view.json.write ps ∧ orderOf ps .standard = .ok order ∧
      ∃ f found, ofParams ps .standard = .ok ⟨1, 10, f, order⟩ ∧
        (Catalogue.query f order 1 10 c).result = .ok found ∧ applesAt 0 ∈ found := by
  intro c ps order
  have hstate : c = ⟨.ready (applesUpTo 1), 1, 1⟩ :=
    (catalogue_after_posts rfl posts_apples 1).trans (after_apples (by decide))
  have hrow : c.row? (applesAt 0).id = some (applesAt 0).row := by
    rw [hstate]
    decide
  have hwf : (applesAt 0).row.WellFormed :=
    Catalogue.wellFormed_of_row? (sound_after {} .counting _).wellFormed hrow
  have hpattern : Like.patternBytes (applesAt 0).name ≤ Like.patternLimit := by decide
  obtain ⟨-, hname, hquantity, -⟩ := ProductReading.shownText?_view hwf
  have hps : AsksFor (applesAt 0).view.json.write ps := by
    intro q hq
    simp only [ps, List.mem_cons, List.not_mem_nil, or_false] at hq
    rcases hq with rfl | rfl | rfl
    · exact Or.inr ⟨("name", "name"), by decide, rfl, hname⟩
    · exact Or.inr ⟨("quantity", "quantity"), by decide, rfl, hquantity⟩
    · exact Or.inl rfl
  have horder : orderOf ps .standard = .ok order := by decide
  obtain ⟨f, hparams, -, total, hcount, -, page, hone, hlast, hpages⟩ :=
    found_by_own_fields {} .counting [postOfApples 3] hrow hpattern hps (fun _ hfield => hfield)
      (by decide) (by decide) horder
  -- The table has no other row, so the one page is the first.
  have hasked : filterOf ps = .ok { name := some (points "apple"), quantity := some 3 } :=
    filterOf_of_params hps.known rfl rfl rfl (by decide) rfl
  obtain ⟨-, -, -, hfilter, -⟩ := ofParams_eq_ok hparams
  obtain rfl : f = { name := some (points "apple"), quantity := some 3 } :=
    Except.ok.inj (hfilter.symm.trans hasked)
  have htotal : (Catalogue.count { name := some (points "apple"), quantity := some 3 }
      ⟨.ready (applesUpTo 1), 1, 1⟩).result = .ok 1 := eq_ok_of_toOption (by decide)
  obtain rfl : total = 1 := by
    rw [← hstate] at htotal
    exact Except.ok.inj (hcount.symm.trans htotal)
  have hlast' : (page - 1) * 10 < 1 := hlast
  obtain ⟨found, hfound, hmem⟩ := hpages 1 (by decide) (by decide)
  exact ⟨hrow, hpattern, hps, horder, _, found, hparams, hfound, hmem.2 (by omega)⟩

end Server

end Stockroom
