import Stockroom.Proofs.Http.Body
import Stockroom.Proofs.Server.Spelling

/-!
# The products of a user

Whatever a body may have as the id of a user, a query may have too, and it is the same user. So
whoever creates a product finds it in the list of that user, under the text of the body. The list
is cut into pages: the product is counted on each of them, and shown on the one that its place in
the list is on.
-/

namespace Stockroom

open Http Listing Number Service Text

/-! ## Texts of ids in a query string -/

theorem Http.Form.isPlain_of_asciiHexDigitValue {c : Char} {d : Nat}
    (h : asciiHexDigitValue c = some d) : IsPlain c := by
  have hnone : ∀ c ∈ ['%', '+', '&'], asciiHexDigitValue c = none :=
    List.forall_mem_cons.2 ⟨rfl, List.forall_mem_cons.2 ⟨rfl, List.forall_mem_singleton.2 rfl⟩⟩
  have hne (c' : Char) (hc' : c' ∈ ['%', '+', '&']) : c ≠ c' := by
    rintro rfl
    cases (hnone c hc').symm.trans h
  exact ⟨(asciiHexDigitValue_eq_some_iff.1 h).1, hne _ (by simp), hne _ (by simp), hne _ (by simp)⟩

theorem Uuid.Spelling.isPlain {u : Uuid} {s : List Char} (h : Spelling u s) :
    ∀ c ∈ s, Form.IsPlain c := by
  have hall : (openBrace :: closeBrace :: '-' :: Uuid.urn).all (decide <| Form.IsPlain ·) := rfl
  have hdecoration : ∀ c ∈ openBrace :: closeBrace :: '-' :: Uuid.urn, Form.IsPlain c :=
    fun c hc => of_decide_eq_true (List.all_eq_true.1 hall c hc)
  induction h with
  | @digits s h =>
    intro c hc
    by_cases hhyphen : c = '-'
    · exact hdecoration c (by simp [hhyphen])
    · obtain ⟨ds, hds, -⟩ := mapM_of_map_toLower h
      have hmem : c ∈ s.filter (· != '-') := List.mem_filter.2 ⟨hc, by simpa using hhyphen⟩
      obtain ⟨d, hd⟩ := (exists_of_mapM_eq_some hds).2.1 c hmem
      exact Form.isPlain_of_asciiHexDigitValue hd
  | braces _ ih =>
    intro c hc
    simp only [List.mem_append, List.mem_cons, List.not_mem_nil, or_false] at hc
    rcases hc with (rfl | hc) | rfl
    · exact hdecoration _ (by simp)
    · exact ih c hc
    · exact hdecoration _ (by simp)
  | urn _ ih =>
    intro c hc
    rcases List.mem_append.1 hc with hc | hc
    · exact hdecoration c (by simp [hc])
    · exact ih c hc

theorem isPlain_of_mem_toString {n : Int} {c : Char} (h : c ∈ (toString n).toList) :
    Form.IsPlain c := by
  rw [toList_toString, List.mem_append] at h
  rcases h with h | h
  · split at h
    · rw [List.mem_singleton.1 h]
      decide
    · exact absurd h List.not_mem_nil
  · have hdigit := isDigit_of_mem_toDigits h
    exact Form.isPlain_of_isAlphanum (by simp [Char.isAlphanum, hdigit])

/-- The query string for a page of what a user has. -/
def pageOfUser (t : String) (page : Int) : String :=
  "user_id=" ++ t ++ "&page=" ++ toString page

theorem params_user {u : Uuid} {t : String} (h : Uuid.Spelling u t.toList) (page : Int) :
    Form.params ("user_id=" ++ t) = [(points "user_id", points t)] ∧
      Form.params (pageOfUser t page) =
        [(points "user_id", points t), (points "page", decimal page)] := by
  have hall : ["user_id", "page"].all fun name =>
      name.toList.all fun c => decide (Form.IsPlain c ∧ c ≠ '=') := rfl
  have hnames (name : String) (hname : name ∈ ["user_id", "page"]) :
      ∀ c ∈ name.toList, Form.IsPlain c ∧ c ≠ '=' := fun c hc =>
    of_decide_eq_true (List.all_eq_true.1 (List.all_eq_true.1 hall name hname) c hc)
  have huser : Form.Plain ("user_id", t) := ⟨hnames _ (by simp), h.isPlain⟩
  have hpage : Form.Plain ("page", toString page) :=
    ⟨hnames _ (by simp), fun c => isPlain_of_mem_toString⟩
  refine ⟨?_, ?_⟩
  · exact Form.params_of_plain [("user_id", t)] (List.cons_ne_nil _ _)
      (by simp [Form.written]) (List.forall_mem_singleton.2 huser)
  · exact Form.params_of_plain [("user_id", t), ("page", toString page)]
      (List.cons_ne_nil _ _) (by simp [Form.written, pageOfUser])
      (List.forall_mem_cons.2 ⟨huser, List.forall_mem_singleton.2 hpage⟩)

/-! ## Ids of a body -/

namespace Payload

theorem exists_of_readId {t : Points} {u : Uuid} (h : readId (.string t) = .ok u) :
    ∃ text : String, t = points text ∧ Uuid.ofStrictText text = .ok u := by
  unfold readId readString at h
  cases htext : ofPoints? t with
  | none => simp [htext] at h
  | some text =>
    cases hid : Uuid.ofStrictText text with
    | error fault => simp [htext, hid] at h
    | ok v =>
      simp only [htext, hid, Except.ok.injEq] at h
      exact ⟨text, (points_of_ofPoints? htext).symm, h ▸ hid⟩

theorem ofPoints?_of_readId {t : Points} {u : Uuid} (h : readId (.string t) = .ok u) :
    Uuid.ofPoints? t = some u := by
  obtain ⟨text, rfl, hid⟩ := exists_of_readId h
  rw [Uuid.ofPoints?, readPoints?_points]
  exact Uuid.ofText?_of_ofStrictText hid

end Payload

namespace Http

theorem Request.Posts.readId_userId {r : Request} {p : NewProduct} (hr : r.Posts p)
    {ms : Payload.Members} (hbody : r.Spells (.object ms)) {j : Json}
    (hj : Json.get? ms "user_id" = some j) : Payload.readId j = .ok p.userId := by
  have hread : readBody Payload.newProduct r = _ :=
    readBody_of_spells (sendsJson_of_readBody hr.body) hbody
  rw [hr.body] at hread
  cases hpayload : Payload.newProduct (.object ms) with
  | error issues =>
    rw [hpayload] at hread
    cases hread
  | ok q =>
    rw [hpayload] at hread
    obtain rfl : p = q := Except.ok.inj hread
    obtain ⟨ms', extras, hms, -, hmembers⟩ := Payload.ofObject_eq_ok_iff.1 hpayload
    obtain rfl : ms = ms' := Json.object.inj hms
    obtain ⟨-, -, -, huser, -⟩ := Payload.newProductOfMembers_eq_ok_iff.1 hmembers
    obtain ⟨j', hj', hid⟩ := Payload.required_eq_ok_iff.1 huser
    obtain rfl : j = j' := Option.some.inj (hj.symm.trans hj')
    exact hid

end Http

/-! ## Pages -/

theorem mem_window_iff {α : Type} {before behind : List α} {a : α}
    (hl : (before ++ a :: behind).Nodup) {k n : Nat} :
    a ∈ ((before ++ a :: behind).drop k).take n ↔ k ≤ before.length ∧ before.length < k + n := by
  have hplace : (before ++ a :: behind)[before.length]? = some a := by simp
  rw [List.mem_iff_getElem?]
  constructor
  · rintro ⟨i, hi⟩
    rw [List.getElem?_take] at hi
    split at hi
    · next hlt =>
      rw [List.getElem?_drop] at hi
      have hlength : k + i < (before ++ a :: behind).length := by
        by_contra hge
        rw [List.getElem?_eq_none (Nat.le_of_not_lt hge)] at hi
        cases hi
      have := (List.getElem?_inj hlength hl).1 (hi.trans hplace.symm)
      omega
    · cases hi
  · rintro ⟨hle, hlt⟩
    refine ⟨before.length - k, ?_⟩
    rw [List.getElem?_take, if_pos (by omega), List.getElem?_drop, Nat.add_sub_cancel' hle]
    exact hplace

theorem Filter.fits_userId (u : Uuid) : Fits { userId := some u } := by
  constructor <;> rintro _ ⟨⟩

theorem StoredProduct.view_injective {p q : StoredProduct} (h : p.view = q.view) : p = q := by
  cases p
  cases q
  simp only [StoredProduct.view, StoredProduct.toProduct, Product.view, ProductView.mk.injEq,
    Moment.mk.injEq, and_true] at h
  obtain ⟨rfl, hname, rfl, rfl, rfl, rfl, rfl⟩ := h
  rw [points_injective hname]

namespace Server

variable {src : Sources} {s : Server} {u : Uuid} {r : Request}

theorem list_user_response (hplan : s.plan = []) {store : Store}
    (htable : s.catalogue.table = .ready store) {settings : Settings}
    (hsame : s.settings = settings) (hsettings : settings.Cuts)
    {l : List StoredProduct}
    (hl : l.map StoredProduct.row = Store.sorted { userId := some u } .id defaultOrder.isReverse
      (store.rows.filter (Row.satisfies { userId := some u })))
    {page : Int} (hpage : 1 ≤ page ∧ page ≤ maxInt64)
    (hoffset : (page - 1) * settings.rows ≤ maxInt64) (hr : r.Reaches .list) {raw : Points}
    (hraw : Uuid.ofPoints? raw = some u)
    (hparams :
      Form.params r.target.query = [(points "user_id", raw), (points "page", decimal page)] ∨
        page = settings.page ∧ Form.params r.target.query = [(points "user_id", raw)]) :
    let shown := (l.drop ((page - 1) * settings.rows).toNat).take settings.rows.toNat
    (s.request src r).response = some (.json 200
      (PageView.json ⟨shown.map StoredProduct.view, l.length, page, settings.rows⟩)) := by
  intro shown
  subst hsame
  obtain ⟨config, hconfig, hfirst, hrows, horder⟩ := hsettings.exists_config
  have hq : ofParams (Form.params r.target.query) config =
      .ok ⟨page, s.settings.rows, { userId := some u }, defaultOrder⟩ := by
    rw [← hrows, ← horder]
    rw [← hrows] at hoffset
    rcases hparams with hparams | ⟨rfl, hparams⟩
    · rw [hparams]
      exact ofParams_userId_page hraw hpage.1 hoffset hpage.2
    · rw [← hfirst] at hoffset ⊢
      rw [hparams, ofParams_userId hraw hoffset]
  obtain ⟨table, n, k, hc⟩ : ∃ table n k, s.catalogue = ⟨table, n, k⟩ := ⟨_, _, _, rfl⟩
  obtain rfl : table = .ready store := by rw [← htable, hc]
  have hfound := Catalogue.query_page (Filter.fits_userId u)
    (show defaultOrder.column? = some .id by decide) hl hpage.1 hsettings.rows hoffset n k
  have htotal := Catalogue.count_of_fits (n := n) (k := k)
    (Filter.fits_userId u).filterFault?_eq_none ((Filter.fits_userId u).patternFault_eq_false store)
  rw [← hc] at hfound htotal
  have hlength : (store.rows.filter (Row.satisfies { userId := some u })).length = l.length := by
    rw [← (Store.sorted_perm _ .id defaultOrder.isReverse _).length_eq, ← hl, List.length_map]
  rw [list_found_response hplan hr hconfig hq hfound htotal, hlength]

theorem response_of_posts (hplan : s.plan = []) {p : NewProduct} (hr : r.Posts p)
    {made : StoredProduct} (h : (Catalogue.create src p s.catalogue).result = .ok made) :
    (s.request src r).response = some (.json 201 made.view.json) := by
  have hverdict : (Service.create (Catalogue.core src) p s.catalogue).verdict = _ :=
    create_verdict_of_ok h
  rw [request_response hplan, serve, handle_post hr]
  exact conclude_respond hverdict

theorem catalogue_of_posts (hplan : s.plan = []) {p : NewProduct} (hr : r.Posts p) :
    (s.request src r).state.catalogue = (Catalogue.create src p s.catalogue).state := by
  rw [request_catalogue hplan, serve, conclude_state, handle_post hr, create_state]
  rfl

theorem catalogue_after_posts (hplan : s.plan = []) {p : NewProduct} (hr : r.Posts p) (n : Nat) :
    (s.after src (List.replicate n r)).catalogue =
      (Catalogue.core src).after (List.replicate n (.create p)) s.catalogue := by
  induction n generalizing s with
  | zero => rfl
  | succ n ih =>
    refine (ih (s := (s.request src r).state) hplan).trans ?_
    rw [catalogue_of_posts hplan hr]
    rfl

theorem exists_created (hplan : s.plan = []) (hc : s.catalogue.WellFormed) (hr : r.Reaches .create)
    {ms : Payload.Members} (hbody : r.Spells (.object ms)) {j : Json}
    (hj : Json.get? ms "user_id" = some j) (h : (s.request src r).status? = some 201) :
    ∃ made : StoredProduct, (s.request src r).response = some (.json 201 made.view.json) ∧
      Payload.readId j = .ok made.userId ∧
      (s.request src r).state.catalogue.row? made.id = some made.row ∧
      (s.request src r).state.catalogue.WellFormed := by
  rw [request_status? hplan] at h
  obtain ⟨p, hp⟩ := exists_posts hr (by decide) h
  obtain ⟨made, hmade⟩ := (status?_post_iff hp).1 h
  obtain ⟨name, -, hmade', -, hrow⟩ := Catalogue.create_ok hc hmade
  rw [response_of_posts hplan hp hmade, catalogue_of_posts hplan hp]
  refine ⟨made, rfl, ?_, hrow, Catalogue.wellFormed_create src p hc⟩
  rw [hmade']
  exact hp.readId_userId hbody hj

/-- What was created is among the products of its user, and the list of these begins with those that
have a smaller id. -/
theorem exists_place (hc : s.catalogue.WellFormed) {made : StoredProduct}
    (hrow : s.catalogue.row? made.id = some made.row) :
    ∃ store before behind, s.catalogue.table = .ready store ∧
      (before ++ made :: behind).map StoredProduct.row =
        Store.sorted { userId := some made.userId } .id defaultOrder.isReverse
          (store.rows.filter (Row.satisfies { userId := some made.userId })) ∧
      Filter.Lists { userId := some made.userId } store defaultOrder .id
        (before ++ made :: behind) := by
  obtain ⟨store, n, k, hready, hstore⟩ := hc.exists_ready
  rw [hready, Catalogue.row?_ready] at hrow
  have hselected : Row.satisfies { userId := some made.userId } made.row = true := by
    simp [Row.satisfies, Row.allows, StoredProduct.row]
  obtain ⟨before, behind, hl, hlists⟩ := Catalogue.exists_lists_around hstore defaultOrder .id
    (Store.mem_of_find? hrow) hselected
  exact ⟨store, before, behind, by rw [hready], hl, hlists⟩

theorem place_iff {rows page : Int} (hrows : 1 ≤ rows) (hpage : 1 ≤ page) (n : Nat) :
    ((page - 1) * rows).toNat ≤ n ∧ n < ((page - 1) * rows).toNat + rows.toNat ↔
      page = n / rows + 1 := by
  have hnonneg : 0 ≤ (page - 1) * rows := Int.mul_nonneg (by omega) (by omega)
  have hquotient : (n : Int) / rows = page - 1 ↔
      (page - 1) * rows ≤ n ∧ (n : Int) < (page - 1 + 1) * rows := by
    rw [← Int.le_ediv_iff_mul_le (by omega), ← Int.ediv_lt_iff_lt_mul (by omega)]
    omega
  have hnext : (page - 1 + 1) * rows = (page - 1) * rows + rows := by
    rw [Int.add_mul, Int.one_mul]
  omega

/-- Every text that a body may have as the id of a user is read by a query as the same user. A
product that was created under it is then one of the products that a list by the text is made of. It
is counted on every page, and shown on the one that the number of its predecessors leads to. -/
theorem created_listed_at_its_place (settings : Settings) (src : Sources) (events : List Event) :
    (∀ (t : Points) (u : Uuid), Payload.readId (.string t) = .ok u →
      filterOf [("user_id", t)] = .ok { userId := some u } ∧
      ∃ text : String, t = points text ∧
        Form.params ("user_id=" ++ text) = [(points "user_id", t)] ∧
        ∀ page, Form.params (pageOfUser text page) =
          [(points "user_id", t), (points "page", decimal page)]) ∧
    let s := (fresh settings).through src events
    ∀ (r : Request) (ms : Payload.Members) (t : Points), r.Reaches .create →
      r.Spells (.object ms) → Json.get? ms "user_id" = some (.string t) →
      (s.request src r).status? = some 201 →
      ∃ (made : StoredProduct) (store : Store) (before behind : List StoredProduct),
        (s.request src r).response = some (.json 201 made.view.json) ∧
        Payload.readId (.string t) = .ok made.userId ∧
        (s.request src r).state.catalogue.table = .ready store ∧
        Filter.Lists { userId := some made.userId } store defaultOrder .id
          (before ++ made :: behind) ∧
        (settings.Cuts → ∀ page : Int, 1 ≤ page → page ≤ maxInt64 →
          (page - 1) * settings.rows ≤ maxInt64 → ∀ g : Request, g.Reaches .list →
          (Form.params g.target.query =
              [(points "user_id", t), (points "page", decimal page)] ∨
            page = settings.page ∧ Form.params g.target.query = [(points "user_id", t)]) →
          ∃ v : PageView, ((s.request src r).state.request src g).response =
              some (.json 200 v.json) ∧
            v.total = (before ++ made :: behind).length ∧
            (made.view ∈ v.items ↔ page = before.length / settings.rows + 1)) := by
  refine ⟨fun t u h => ?_, fun r ms t hr hbody ht hstatus => ?_⟩
  · obtain ⟨text, rfl, hid⟩ := Payload.exists_of_readId h
    have hspelling := Uuid.spelling_of_ofStrictText hid
    exact ⟨(filterOf_userId (Payload.ofPoints?_of_readId h) []).1, text, rfl,
      (params_user hspelling 1).1, fun page => (params_user hspelling page).2⟩
  · have hplan : ((fresh settings).through src events).plan = [] := through_plan events
    have hc := (reached_through settings src events).wellFormed
    obtain ⟨made, hresponse, huser, hrow, hwf⟩ := exists_created hplan hc hr hbody ht hstatus
    obtain ⟨store, before, behind, htable, hl, hlists⟩ := exists_place hwf hrow
    refine ⟨made, store, before, behind, hresponse, huser, htable, hlists,
      fun hsettings page hpage hmax hoffset g hg hparams => ?_⟩
    have hsame : (((fresh settings).through src events).request src r).state.settings = settings :=
      through_settings events
    refine ⟨_, list_user_response (s := (((fresh settings).through src events).request src r).state)
      hplan htable hsame hsettings hl ⟨hpage, hmax⟩ hoffset hg
      (Payload.ofPoints?_of_readId huser) hparams, rfl, ?_⟩
    rw [List.mem_map_of_injective fun _ _ => StoredProduct.view_injective,
      mem_window_iff hlists.nodup, place_iff hsettings.rows.1 hpage]

/-! ## A user with many products -/

/-- The apples that are created after so many others. -/
def applesAt (n : Nat) : StoredProduct :=
  ⟨Sources.counting.ids n, "apple", .ofInt 1, 3, ⟨7⟩, Sources.counting.clock n,
    Sources.counting.clock n⟩

def applesUpTo (n : Nat) : Store := ⟨(List.range n).map fun n => (applesAt n).row⟩

theorem counting_ids_injective {i j : Nat} (hi : i < 2 ^ 64) (hj : j < 2 ^ 64)
    (h : Sources.counting.ids i = Sources.counting.ids j) : i = j := by
  have hvalue := congrArg (fun u : Uuid => u.value.toNat) h
  simp only [Sources.counting, BitVec.toNat_ofNat] at hvalue
  omega

theorem insert_apples {n : Nat} (hn : n < 2 ^ 64) :
    (applesUpTo n).insert (applesAt n).row = .ok (applesUpTo (n + 1)) := by
  have hfresh : (applesUpTo n).contains (applesAt n).row.id = false := by
    rw [Store.contains_eq_false_iff]
    intro r hr hid
    obtain ⟨m, hm, rfl⟩ := List.mem_map.1 hr
    rw [List.mem_range] at hm
    have := counting_ids_injective (Nat.lt_trans hm hn) hn (Uuid.text_injective hid)
    omega
  have hfault : (applesAt n).row.fault? = none := rfl
  have hstored : (applesAt n).row.stored = (applesAt n).row := rfl
  have hnext : applesUpTo (n + 1) = ⟨(applesUpTo n).rows ++ [(applesAt n).row]⟩ := by
    simp [applesUpTo, List.range_succ]
  rw [Store.insert_eq_ok_iff, hstored, hnext]
  exact ⟨hfault, hfresh, rfl⟩

theorem create_apples {n : Nat} (hn : n < 2 ^ 64) :
    (Catalogue.create .counting (someApples 3) ⟨.ready (applesUpTo n), n, n⟩).result =
        .ok (applesAt n) ∧
      (Catalogue.create .counting (someApples 3) ⟨.ready (applesUpTo n), n, n⟩).state =
        ⟨.ready (applesUpTo (n + 1)), n + 1, n + 1⟩ := by
  have hrow : Catalogue.newRow (Sources.counting.ids n) (Sources.counting.clock n)
      (someApples 3) = .ok (applesAt n).row :=
    Catalogue.newRow_eq_ok_iff.2 ⟨"apple", storedText_points "apple", rfl⟩
  rcases Catalogue.create_cases .counting (someApples 3) (applesUpTo n) n n with
    ⟨row, t, hrow', hins, heq⟩ | ⟨fault, herror, heq⟩
  · obtain rfl := Except.ok.inj (hrow.symm.trans hrow')
    obtain rfl := Except.ok.inj ((insert_apples hn).symm.trans hins)
    rw [heq]
    dsimp only
    exact ⟨Row.product_row (applesAt n), rfl⟩
  · rw [hrow] at herror
    cases (insert_apples hn).symm.trans herror

theorem after_apples {n : Nat} (hn : n < 2 ^ 64) :
    (Catalogue.core .counting).after (List.replicate n (.create (someApples 3))) {} =
      ⟨.ready (applesUpTo n), n, n⟩ := by
  induction n with
  | zero => rfl
  | succ n ih =>
    rw [List.replicate_succ', Core.after_append, ih (by omega)]
    exact (create_apples (by omega)).2

/-- A client that lists what a user has. -/
def listOfUser (t : String) : Request :=
  { getFirst with target := ⟨"/products/", "user_id=" ++ t⟩ }

theorem listOfUser_reaches (t : String) : (listOfUser t).Reaches .list := by
  show dispatch productRoutes "GET" "/products/" = _
  decide

/-- The user of the apples. -/
def appleUser : String := "00000000-0000-0000-0000-000000000007"

/-- The text of a value that is a string. -/
def stringOf? : Json → Option Points
  | .string p => some p
  | _ => none

theorem eq_string_of_stringOf? {j : Json} {p : Points} (h : stringOf? j = some p) :
    j = .string p := by
  cases j with
  | string q => rw [Option.some.inj h]
  | _ => cases h

theorem apples_spelled : ∃ ms, (postOfApples 3).Spells (.object ms) ∧
    Json.get? ms "user_id" = some (.string appleUser) ∧
    Payload.newProduct (.object ms) = .ok (someApples 3) := by
  have hmembers : ((decodeText? (postOfApples 3).body).bind fun text =>
      membersOf? (Json.read bodyDepth text)).any (fun ms =>
        decide ((Json.get? ms "user_id").bind stringOf? = some (points appleUser) ∧
          (Payload.newProduct (.object ms)).toOption = some (someApples 3))) = true := by
    decide +kernel
  obtain ⟨ms, hms, h⟩ := (Option.any_eq_true _ _).1 hmembers
  obtain ⟨text, htext, hread⟩ := Option.bind_eq_some_iff.1 hms
  obtain ⟨huser, hpayload⟩ := of_decide_eq_true h
  obtain ⟨j, hj, hstring⟩ := Option.bind_eq_some_iff.1 huser
  obtain rfl := eq_string_of_stringOf? hstring
  exact ⟨ms, ⟨text, htext, membersOf?_eq_some_iff.1 hread⟩, hj, eq_ok_of_toOption hpayload⟩

theorem posts_apples : (postOfApples 3).Posts (someApples 3) := by
  obtain ⟨ms, hspells, -, hpayload⟩ := apples_spelled
  have hjson : (postOfApples 3).SendsJson := by
    unfold Request.SendsJson
    decide
  constructor
  · show dispatch productRoutes "POST" "/products/" = _
    decide
  · rw [readBody_of_spells hjson hspells, hpayload]
    rfl

theorem appleUser_read : Payload.readId (.string appleUser) = .ok ⟨7⟩ := by
  obtain ⟨ms, hspells, hj, -⟩ := apples_spelled
  exact posts_apples.readId_userId hspells hj

theorem params_appleUser :
    Form.params (listOfUser appleUser).target.query =
      [(points "user_id", points appleUser)] := by
  obtain ⟨text, htext, hid⟩ := Payload.exists_of_readId appleUser_read
  obtain rfl : appleUser = text := points_injective htext
  exact (params_user (Uuid.spelling_of_ofStrictText hid) 1).1

theorem first_apples_listed :
    (postOfApples 3).Reaches .create ∧ Settings.Cuts {} ∧
      (∃ ms, (postOfApples 3).Spells (.object ms) ∧
        Json.get? ms "user_id" = some (.string appleUser)) ∧
      ((fresh {}).request .counting (postOfApples 3)).status? = some 201 ∧
      ∃ (made : StoredProduct) (v : PageView),
        ((fresh {}).request .counting (postOfApples 3)).response =
          some (.json 201 made.view.json) ∧
        (((fresh {}).request .counting (postOfApples 3)).state.request .counting
          (listOfUser appleUser)).response = some (.json 200 v.json) ∧ made.view ∈ v.items := by
  have hcuts : Settings.Cuts {} := ⟨by decide, by decide⟩
  obtain ⟨hmade, hstate⟩ := create_apples (n := 0) (by decide)
  have hstatus : ((fresh {}).request .counting (postOfApples 3)).status? = some 201 := by
    rw [Exchange.status?, response_of_posts rfl posts_apples hmade]
    rfl
  obtain ⟨ms, hspells, hj, -⟩ := apples_spelled
  obtain ⟨-, hcreated⟩ := created_listed_at_its_place {} .counting []
  obtain ⟨made, store, before, behind, hresponse, -, htable, hlists, hpages⟩ :=
    hcreated (postOfApples 3) ms appleUser posts_apples.reaches hspells hj hstatus
  obtain ⟨v, hv, -, hplace⟩ := hpages hcuts 1 (by decide) (by decide) (by decide)
    (listOfUser appleUser) (listOfUser_reaches _) (Or.inr ⟨rfl, params_appleUser⟩)
  -- There is no product but this one, so none comes before it.
  have hone : before.length = 0 := by
    have hstart : ((fresh {}).through .counting []).catalogue = ⟨.ready (applesUpTo 0), 0, 0⟩ := rfl
    rw [catalogue_of_posts (through_plan []) posts_apples, hstart, hstate] at htable
    obtain rfl : applesUpTo 1 = store := Table.ready.inj htable
    have hlength := hlists.rows.length_eq
    have hle := List.length_filter_le (Row.satisfies { userId := some made.userId })
      (applesUpTo 1).rows
    have hsize : (applesUpTo 1).rows.length = 1 := rfl
    simp only [List.length_map, List.length_append, List.length_cons] at hlength
    omega
  refine ⟨posts_apples.reaches, hcuts, ⟨ms, hspells, hj⟩, hstatus, made, v, hresponse, hv,
    hplace.2 ?_⟩
  rw [hone]
  decide

theorem sorted_apples : ((List.range 11).map applesAt).map StoredProduct.row =
    Store.sorted { userId := some ⟨7⟩ } .id defaultOrder.isReverse
      ((applesUpTo 11).rows.filter (Row.satisfies { userId := some ⟨7⟩ })) := by
  have hall : ∀ r ∈ (applesUpTo 11).rows, Row.satisfies { userId := some ⟨7⟩ } r = true := by
    intro r hr
    obtain ⟨n, -, rfl⟩ := List.mem_map.1 hr
    simp [Row.satisfies, Row.allows, applesAt, StoredProduct.row]
  have hascending : defaultOrder.isReverse = false := by decide
  have hchain : (applesUpTo 11).rows.IsChain
      fun a b => Row.ordered .id false a b = true := by decide +kernel
  have : Trans (fun a b => Row.ordered .id false a b = true)
      (fun a b => Row.ordered .id false a b = true)
      (fun a b => Row.ordered .id false a b = true) :=
    ⟨Row.ordered_trans .id false _ _ _⟩
  rw [List.filter_eq_self.2 hall, hascending, Store.sorted_of_pairwise hchain.pairwise,
    List.map_map]
  rfl

/-- The eleventh apples of a user are created, but a list of what the user has shows the first
ten. -/
theorem eleventh_apples_unlisted :
    let s := (fresh {}).after .counting (List.replicate 10 (postOfApples 3))
    let posted := s.request .counting (postOfApples 3)
    (∃ ms, (postOfApples 3).Spells (.object ms) ∧
        Json.get? ms "user_id" = some (.string appleUser)) ∧
      ∃ (made : StoredProduct) (v : PageView), posted.response = some (.json 201 made.view.json) ∧
        Payload.readId (.string appleUser) = .ok made.userId ∧
        (posted.state.request .counting (listOfUser appleUser)).response =
          some (.json 200 v.json) ∧ ∀ item ∈ v.items, item.id ≠ made.id := by
  intro s posted
  have hplan : s.plan = [] := after_plan _
  have hten : s.catalogue = ⟨.ready (applesUpTo 10), 10, 10⟩ :=
    (catalogue_after_posts rfl posts_apples 10).trans (after_apples (by decide))
  have hsettings : s.settings = {} := after_settings _
  clear_value s
  obtain ⟨hmade, hstate⟩ := create_apples (n := 10) (by decide)
  rw [← hten] at hmade hstate
  have hresponse : posted.response = some (.json 201 (applesAt 10).view.json) :=
    response_of_posts hplan posts_apples hmade
  have htable : posted.state.catalogue.table = .ready (applesUpTo 11) := by
    show (s.request .counting (postOfApples 3)).state.catalogue.table = _
    rw [catalogue_of_posts hplan posts_apples, hstate]
  have hcuts : Settings.Cuts {} := ⟨by decide, by decide⟩
  obtain ⟨ms, hspells, hj, -⟩ := apples_spelled
  refine ⟨⟨ms, hspells, hj⟩, applesAt 10, _, hresponse, appleUser_read,
    list_user_response ((request_plan _).trans hplan) htable ((request_settings _).trans hsettings)
      hcuts sorted_apples (show 1 ≤ (1 : Int) ∧ 1 ≤ maxInt64 by decide) (by decide)
      (listOfUser_reaches appleUser) (Payload.ofPoints?_of_readId appleUser_read)
      (Or.inr ⟨rfl, params_appleUser⟩),
    fun item hitem hid => ?_⟩
  obtain ⟨p, hp, rfl⟩ := List.mem_map.1 hitem
  rw [← List.map_drop, ← List.map_take] at hp
  obtain ⟨n, hn, rfl⟩ := List.mem_map.1 hp
  replace hn : n < 10 := List.mem_range.1 hn
  have := counting_ids_injective (by omega) (by decide) hid
  omega

end Server

end Stockroom
