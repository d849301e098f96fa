import Stockroom.Proofs.Catalogue.Filter
import Stockroom.Proofs.Listing.Identifier
import Stockroom.Proofs.Server.Delete
import Stockroom.Proofs.Uuid.Spelling

/-!
# One product under every spelling of its id

A path and a query read an id alike, in any spelling. So whoever looks a product up, changes it,
removes it or lists it by its id means one row, however the id is spelled, and no other row is
touched.
-/

namespace Stockroom

open Http Listing Number Service Text

/-! ## The rows with an id -/

theorem filter_key_eq {α β : Type} [BEq β] [LawfulBEq β] {key : α → β} {l : List α}
    (hl : (l.map key).Nodup) (b : β) :
    l.filter (fun a => key a == b) = (l.find? fun a => key a == b).toList := by
  induction l with
  | nil => rfl
  | cons a l ih =>
    rw [List.map_cons, List.nodup_cons] at hl
    by_cases ha : key a = b
    · have hrest : l.filter (fun x => key x == b) = [] := by
        refine List.filter_eq_nil_iff.2 fun x hx hkey => hl.1 ?_
        rw [ha, ← beq_iff_eq.1 hkey]
        exact List.mem_map_of_mem hx
      rw [List.filter_cons_of_pos (by simp [ha]), hrest, List.find?_cons_of_pos (by simp [ha])]
      rfl
    · rw [List.filter_cons_of_neg (by simp [ha]), List.find?_cons_of_neg (by simp [ha]), ih hl.2]

theorem Store.filter_id {s : Store} (hs : s.Keyed) (u : Uuid) :
    s.rows.filter (Row.satisfies { id := some u }) = (s.find? u.text).toList := by
  have hid : Row.satisfies { id := some u } = fun r => r.id == u.text := by
    funext r
    simp [Row.satisfies, Row.allows]
  rw [hid]
  exact filter_key_eq hs u.text

namespace Catalogue

variable {c : Catalogue} {u : Uuid}

theorem query_id (hc : c.WellFormed) {order : OrderBy} {field : SortField}
    (hfield : order.column? = some field) {rows : Int} (hrows : 1 ≤ rows ∧ rows ≤ maxInt64)
    {l : List StoredProduct} (hl : l.map StoredProduct.row = (c.row? u).toList) :
    (query { id := some u } order 1 rows c).result = .ok l ∧
      (count { id := some u } c).result = .ok l.length := by
  obtain ⟨s, n, k, rfl, hs⟩ := hc.exists_ready
  have hfilter : s.rows.filter (Row.satisfies { id := some u }) = l.map StoredProduct.row := by
    rw [hl]
    exact Store.filter_id hs.keyed u
  have hshort : l.length ≤ 1 := by
    rw [← List.length_map (f := StoredProduct.row), hl]
    cases row? ⟨.ready s, n, k⟩ u <;> simp
  have hsorted : Store.sorted { id := some u } field order.isReverse (l.map StoredProduct.row) =
      l.map StoredProduct.row := by
    have hperm := Store.sorted_perm { id := some u } field order.isReverse (l.map StoredProduct.row)
    match l, hshort with
    | [], _ => exact List.perm_nil.1 hperm
    | [p], _ => exact List.perm_singleton.1 hperm
  have hpage : l.map StoredProduct.row = Store.sorted { id := some u } field order.isReverse
      (s.rows.filter (Row.satisfies { id := some u })) := by rw [hfilter, hsorted]
  refine ⟨?_, ?_⟩
  · have hall : l.length ≤ rows.toNat := by omega
    have hfirst : ((1 : Int) - 1) * rows = 0 := by simp
    rw [query_page (Filter.fits_id u) hfield hpage (Int.le_refl 1) hrows (by omega), hfirst,
      Int.toNat_zero, List.drop_zero, List.take_of_length_le hall]
  · rw [count_of_fits (Filter.fits_id u).filterFault?_eq_none
      ((Filter.fits_id u).patternFault_eq_false s), hfilter, List.length_map]

end Catalogue

/-! ## Requests for a product that is there -/

/-- Settings whose lists are cut into pages, of as many rows as the table can count. -/
structure Settings.Cuts (settings : Settings) : Prop where
  page : 1 ≤ settings.page
  rows : 1 ≤ settings.rows ∧ settings.rows ≤ maxInt64

/-- Settings whose lists begin with the first page. -/
structure Settings.ListsFirst (settings : Settings) : Prop where
  page : settings.page = 1
  rows : 1 ≤ settings.rows ∧ settings.rows ≤ maxInt64

theorem Settings.ListsFirst.cuts {settings : Settings} (h : settings.ListsFirst) : settings.Cuts :=
  ⟨h.page.ge, h.rows⟩

theorem Settings.Cuts.exists_config {settings : Settings} (h : settings.Cuts) :
    ∃ config, settings.listConfig = .ok config ∧ config.page = settings.page ∧
      config.rows = settings.rows ∧ config.order = defaultOrder := by
  have hpages : 1 ≤ settings.page ∧ 1 ≤ settings.rows := ⟨h.page, h.rows.1⟩
  have hfield : ListConfig.standard.order.field ∈ ListConfig.standard.sortable :=
    ListConfig.standard.order_sortable
  rw [Settings.listConfig, ListConfig.make, dif_pos hpages, dif_pos hfield]
  exact ⟨_, rfl, rfl, rfl, rfl⟩

namespace Server

variable {src : Sources} {s : Server} {u : Uuid} {r : Request}

theorem list_found_response (hplan : s.plan = []) (hr : r.Reaches .list) {config : ListConfig}
    (hconfig : s.settings.listConfig = .ok config) {q : Listing}
    (hq : ofParams (Form.params r.target.query) config = .ok q) {found : List StoredProduct}
    {total : Nat}
    (hfound : (Catalogue.query q.filter q.order q.page q.rows s.catalogue).result = .ok found)
    (htotal : (Catalogue.count q.filter s.catalogue).result = .ok total) :
    (s.request src r).response =
      some (.json 200 (PageView.json ⟨found.map StoredProduct.view, total, q.page, q.rows⟩)) := by
  have hcount : ((Catalogue.core src).count q.filter ((Catalogue.core src).query q.filter q.order
      q.page q.rows s.catalogue).state).result = .ok total := by
    have hstate : ((Catalogue.core src).query q.filter q.order q.page q.rows s.catalogue).state =
        s.catalogue := Catalogue.query_state _ _ _ _ _
    rw [hstate]
    exact htotal
  rw [request_response hplan, hconfig, serve, handle_list_of_ok hr hq]
  have hverdict : (Service.list (Catalogue.core src) q s.catalogue).verdict = _ :=
    list_verdict_of_ok hfound hcount
  exact conclude_respond hverdict

theorem list_id_response (hplan : s.plan = []) (hc : s.catalogue.WellFormed)
    (hsettings : s.settings.ListsFirst) (hr : r.Reaches .list) {raw : Points}
    (hparams : Form.params r.target.query = [(points "product_id", raw)])
    (hraw : Uuid.ofPoints? raw = some u) {l : List StoredProduct}
    (hl : l.map StoredProduct.row = (s.catalogue.row? u).toList) :
    (s.request src r).response = some (.json 200
      (PageView.json ⟨l.map StoredProduct.view, l.length, 1, s.settings.rows⟩)) := by
  obtain ⟨config, hconfig, hpage, hrows, horder⟩ := hsettings.cuts.exists_config
  rw [hsettings.page] at hpage
  have hoffset : (config.page - 1) * config.rows ≤ maxInt64 := by
    rw [hpage, Int.sub_self, Int.zero_mul]
    decide
  have hq := ofParams_productId hraw hoffset
  rw [← hparams, hpage, hrows, horder] at hq
  obtain ⟨hquery, hcount⟩ := Catalogue.query_id hc
    (show defaultOrder.column? = some .id by decide) hsettings.rows hl
  exact list_found_response hplan hr hconfig hq hquery hcount

/-- What there is under an id, to everyone who spells it: a look-up shows it, an update changes it,
a removal removes it, and a list by the id has it and nothing else. -/
structure Holds (src : Sources) (p : StoredProduct) (s : Server) : Prop where
  row : s.catalogue.row? p.id = some p.row
  get : ∀ r : Request, r.IsFor "GET" p.id →
    (s.request src r).response = some (.json 200 p.view.json)
  put : ∀ (r : Request) (change : Patch), r.IsFor "PUT" p.id →
    readBody Payload.patch r = .ok change →
      (s.request src r).state.catalogue = (Catalogue.update src p change s.catalogue).state ∧
      ∀ other row, other ≠ p.id → s.catalogue.row? other = some row →
        (s.request src r).state.catalogue.row? other = some row
  delete : ∀ r : Request, r.IsFor "DELETE" p.id →
    (s.request src r).response = some .noContent ∧
      ∀ other, (s.request src r).state.catalogue.row? other =
        if other = p.id then none else s.catalogue.row? other
  list : s.settings.ListsFirst → ∀ r : Request, r.Reaches .list → ∀ raw,
    Form.params r.target.query = [(points "product_id", raw)] → Uuid.ofPoints? raw = some p.id →
      (s.request src r).response =
        some (.json 200 (PageView.json ⟨[p.view], 1, 1, s.settings.rows⟩))

theorem holds_of_row? (hplan : s.plan = []) (hc : s.catalogue.WellFormed) {p : StoredProduct}
    (hrow : s.catalogue.row? p.id = some p.row) : s.Holds src p where
  row := hrow
  get r hr := get_response hplan hrow (hr.reaches (by simp [itemEndpoints])) hr.pathId_ok
  put r change hr hbody := by
    have hreaches : r.Reaches .update := hr.reaches (by simp [itemEndpoints])
    obtain ⟨q, hq⟩ := Catalogue.exists_of_row? hc hrow
    obtain ⟨-, hqrow⟩ := Catalogue.queryById_ok hc hq
    obtain rfl : p = q := StoredProduct.row_injective (Option.some.inj (hrow.symm.trans hqrow))
    have hupdate : (Service.update (Catalogue.core src) p.id change s.catalogue).state = _ :=
      update_state_of_ok hq
    have hstate : (s.request src r).state.catalogue =
        (Catalogue.update src p change s.catalogue).state := by
      rw [request_catalogue hplan, serve, conclude_state,
        handle_put ⟨hreaches, hr.pathId_ok, hbody⟩, hupdate, Catalogue.core_queryById_state]
      rfl
    refine ⟨hstate, fun other row hother h => ?_⟩
    rw [hstate]
    exact Catalogue.row?_update (Ne.symm hother) h
  delete r hr := by
    obtain ⟨hresponse, hstate⟩ : (s.request src r).response = some .noContent ∧ _ :=
      remove_request hplan hc hr
    refine ⟨hresponse, fun other => ?_⟩
    rw [hstate]
    exact Catalogue.row?_without hc p.id other
  list hsettings r hr raw hparams hraw :=
    list_id_response hplan hc hsettings hr hparams hraw (l := [p]) (by rw [hrow]; rfl)

/-- Nothing is there under an id, to everyone who spells it. A removal has nothing to do, and a list
by the id is empty. -/
structure Misses (src : Sources) (u : Uuid) (s : Server) : Prop extends s.Lacks src u where
  delete : ∀ r : Request, r.IsFor "DELETE" u →
    (s.request src r).response = some .noContent ∧ (s.request src r).state = s
  empty : s.settings.ListsFirst → ∀ r : Request, r.Reaches .list → ∀ raw,
    Form.params r.target.query = [(points "product_id", raw)] → Uuid.ofPoints? raw = some u →
      (s.request src r).response =
        some (.json 200 (PageView.json ⟨[], 0, 1, s.settings.rows⟩))

theorem misses_of_row?_eq_none (hplan : s.plan = []) (hc : s.catalogue.WellFormed)
    (hgone : s.catalogue.row? u = none) : s.Misses src u where
  toLacks := lacks_of_row?_eq_none hplan hc hgone
  delete r hr := by
    obtain ⟨hresponse, hstate⟩ : (s.request src r).response = some .noContent ∧ _ :=
      remove_request hplan hc hr
    rw [Catalogue.without_eq_self hc hgone] at hstate
    exact ⟨hresponse, hstate⟩
  empty hsettings r hr raw hparams hraw :=
    list_id_response hplan hc hsettings hr hparams hraw (l := []) (by rw [hgone]; rfl)

/-! ## Texts of ids -/

theorem pathId_of_spelling {t : String} (h : Uuid.Spelling u t.toList) : pathId t = .ok u := by
  rw [pathId_eq_ok_iff, Uuid.ofPoints?, readPoints?_points]
  exact h.ofChars?_eq

theorem exists_pathId {t : String} {n : Int} (hlength : (Uuid.bare t.toList).length = 32)
    (h : Uuid.hexOfText? (Uuid.bare t.toList) = some n) :
    ∃ u : Uuid, pathId t = .ok u ∧ n = u.value.toNat := by
  obtain ⟨u, hu, hn⟩ := Uuid.exists_ofChars? hlength h
  refine ⟨u, ?_, hn⟩
  rw [pathId_eq_ok_iff, Uuid.ofPoints?, readPoints?_points]
  exact hu

/-- A path and a query read an id alike, in every spelling, and the canonical text of what they
read is a spelling of it. So every request with some spelling of an id is about one row, the one
that is there under the id. -/
theorem spellings_name_one_product (settings : Settings) (src : Sources) (events : List Event) :
    (∀ (u : Uuid) (t : String), Uuid.Spelling u t.toList → pathId t = .ok u) ∧
    (∀ (raw : Points) (u : Uuid),
      (pathId raw = .ok u ↔ ∃ f, filterOf [("product_id", raw)] = .ok f ∧ f.id = some u) ∧
      (pathId raw = .ok u ↔ ∃ f, filterOf [("user_id", raw)] = .ok f ∧ f.userId = some u)) ∧
    (∀ u : Uuid, pathId u.text = .ok u ∧
      filterOf [("product_id", u.text)] = .ok { id := some u } ∧
      filterOf [("user_id", u.text)] = .ok { userId := some u }) ∧
    (∀ (t : String) (n : Int), (Uuid.bare t.toList).length = 32 →
      Uuid.hexOfText? (Uuid.bare t.toList) = some n →
        ∃ u : Uuid, pathId t = .ok u ∧ n = u.value.toNat) ∧
    let s := (fresh settings).through src events
    ∀ u : Uuid, s.Misses src u ∨ ∃ p : StoredProduct, p.id = u ∧ s.Holds src p := by
  have hcanonical (u : Uuid) : pathId u.text = .ok u := pathId_of_spelling (Uuid.spelling_text u)
  refine ⟨fun u t => pathId_of_spelling, fun raw u => ⟨?_, ?_⟩, fun u => ⟨hcanonical u, ?_, ?_⟩,
    fun t n => exists_pathId, fun u => ?_⟩
  · rw [pathId_eq_ok_iff, filterOf_productId_iff]
  · rw [pathId_eq_ok_iff, filterOf_userId_iff]
  · exact filterOf_productId (pathId_eq_ok_iff.1 (hcanonical u))
  · exact (filterOf_userId (pathId_eq_ok_iff.1 (hcanonical u)) []).1
  · have hplan : ((fresh settings).through src events).plan = [] := through_plan events
    have hc := (reached_through settings src events).wellFormed
    cases hrow : ((fresh settings).through src events).catalogue.row? u with
    | none => exact Or.inl (misses_of_row?_eq_none hplan hc hrow)
    | some row =>
      obtain ⟨p, hp⟩ := Catalogue.exists_of_row? hc hrow
      obtain ⟨rfl, hprow⟩ := Catalogue.queryById_ok hc hp
      exact Or.inr ⟨p, rfl, holds_of_row? hplan hc hprow⟩

/-- A client that lists what has an id. -/
def listOf (spelling : String) : Request :=
  { getFirst with target := ⟨"/products/", "product_id=" ++ spelling⟩ }

/-- The first apples are found in a path with braces and hardly a hyphen, and in a query after
`urn:uuid:`. The case of letters does not matter. -/
theorem first_apples_found :
    let s := (fresh {}).through .counting [.request (postOfApples 3)]
    let look := getItem "testserver" "\x7b00000000000040008000-000000000000\x7d"
    let list := listOf "urn:uuid:00000000-0000-4000-8000-000000000000"
    pathId "\x7b0000-00000000-000000000000-00AbCdEF\x7d" = .ok ⟨0xABCDEF⟩ ∧
      ∃ p : StoredProduct, p.id = Sources.counting.ids 0 ∧
        (s.request .counting look).response = some (.json 200 p.view.json) ∧
        (s.request .counting list).response =
          some (.json 200 (PageView.json ⟨[p.view], 1, 1, 10⟩)) := by
  intro s look list
  obtain ⟨hspelling, -, -, -, hserver⟩ :=
    spellings_name_one_product {} .counting [.request (postOfApples 3)]
  have hbraces : "\x7b0000-00000000-000000000000-00AbCdEF\x7d".toList = Uuid.openBrace ::
      "0000-00000000-000000000000-00AbCdEF".toList ++ [Uuid.closeBrace] := by decide +kernel
  refine ⟨hspelling _ _ (hbraces ▸ .braces (.digits (by decide +kernel))), ?_⟩
  have hlook : look.IsFor "GET" (Sources.counting.ids 0) :=
    ⟨rfl, "\x7b00000000000040008000-000000000000\x7d", rfl, by decide +kernel⟩
  have hlist : list.Reaches .list ∧ Form.params list.target.query =
      [(points "product_id", points "urn:uuid:00000000-0000-4000-8000-000000000000")] ∧
      Uuid.ofPoints? (points "urn:uuid:00000000-0000-4000-8000-000000000000") =
        some (Sources.counting.ids 0) := by decide +kernel
  have hfirst : Settings.ListsFirst {} := ⟨rfl, by decide⟩
  rcases hserver (Sources.counting.ids 0) with hmisses | ⟨p, hid, hholds⟩
  · have hthere : (s.catalogue.row? (Sources.counting.ids 0)).isSome = true := by decide +kernel
    rw [hmisses.row] at hthere
    cases hthere
  · rw [← hid] at hlook hlist
    exact ⟨p, hid, hholds.get look hlook,
      hholds.list hfirst list hlist.1 _ hlist.2.1 hlist.2.2⟩

end Server

end Stockroom
