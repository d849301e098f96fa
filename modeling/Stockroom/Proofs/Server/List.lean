import Stockroom.Proofs.Catalogue.Page
import Stockroom.Proofs.Service.Refusal

/-!
# List requests and the table

A query string comes to a page or to the parameters at fault, with one exception. Nothing bounds the
length of a name before the table does, so a name that is too long for a pattern ends as an internal
failure once a row is looked at.
-/

namespace Stockroom

open Http Number Service Text

/-! ## The service -/

namespace Service

variable {σ : Type} {core : Core σ} {config : ListConfig} {q : Listing} {r : Request} {s : σ}

/-- What a list request should be answered with: a page, or a problem with parameters that stand in
its query string. -/
inductive IsListAnswer (query : String) : Response → Prop
  | page (v : PageView) : IsListAnswer query (.json 200 v.json)
  | refusal {faults : Faults} {response : Response} (hne : faults ≠ [])
      (hnames : ∀ f ∈ faults, f.1 ∈ (Form.params query).map Prod.fst)
      (hresponse : problemResponse (.fields faults) = .ok response) :
      IsListAnswer query response

theorem IsListAnswer.status {query : String} {response : Response}
    (h : IsListAnswer query response) : response.status = 200 ∨ response.status = 400 := by
  cases h with
  | page v => exact Or.inl rfl
  | refusal _ _ hresponse => exact Or.inr (problemResponse_status hresponse)

theorem isListAnswer_of_error {query : String} {fault : ListFault} (hpage : config.page = 1)
    (hfault : Listing.ofParams (Form.params query) config = .error fault) :
    ∃ response, problemResponse fault.problem = .ok response ∧ IsListAnswer query response := by
  obtain ⟨hne, hnames⟩ := Listing.namesParams_of_ofParams hpage hfault
  obtain ⟨faults, hproblem, hkeys, -⟩ := fault.exists_fields
  have hmem (f : Points × Points) (hf : f ∈ faults) :
      f.1 ∈ (Form.params query).map Prod.fst :=
    hnames f.1 (hkeys ▸ List.mem_map_of_mem hf)
  obtain ⟨-, text, htext⟩ := isRefusal_of_ofParams hfault
  rw [hproblem, Problem.answer] at htext
  have hresponse : problemResponse (.fields faults) = .ok (.ofJsonText 400 text) := by
    rw [problemResponse, Problem.answer, htext]
    rfl
  refine ⟨.ofJsonText 400 text, hproblem ▸ hresponse, .refusal ?_ hmem hresponse⟩
  rintro rfl
  exact hne hkeys.symm

end Service

namespace Server

variable {src : Sources} {requests : List Request} {r : Request}

theorem exists_conclude (src : Sources) (requests : List Request) (hr : r.Reaches .list)
    (haddressed : r.IsAddressed) :
    let s := (fresh {}).after src requests
    ∃ subject, (s.request src r).response =
      (conclude (.ok subject) (handle (Catalogue.core src) (.ok .standard) r
        s.catalogue)).response := by
  intro s
  have hplan : s.plan = [] := after_plan requests
  have hsettings : s.settings = {} := after_settings requests
  obtain ⟨subject, hsubject⟩ := haddressed.exists_subject hr.head?_path
  refine ⟨subject, ?_⟩
  rw [← core_eq hplan, ← hsubject]
  show (serve (s.core src) s.settings.listConfig r s.catalogue).response = _
  rw [hsettings]
  rfl

theorem fits_of_params {query : String} {q : Listing}
    (h : Listing.ofParams (Form.params query) ListConfig.standard = .ok q) : q.Fits :=
  Listing.fits_of_ofParams (fun _ hp => (Form.isClean_of_mem_params hp).2) h

theorem exists_table (src : Sources) (requests : List Request) :
    ∃ store, ((fresh {}).after src requests).catalogue.table = .ready store := by
  obtain ⟨store, n, k, hc, -⟩ := (sound_after {} src requests).exists_ready
  exact ⟨store, by rw [hc]⟩

/-- A name that is too long for a pattern is an internal failure once a row is looked at. -/
theorem status?_of_patternFault (hr : r.Reaches .list) (haddressed : r.IsAddressed) {q : Listing}
    {store : Store}
    (hq : Listing.ofParams (Form.params r.target.query) ListConfig.standard = .ok q)
    (htable : ((fresh {}).after src requests).catalogue.table = .ready store)
    (hpattern : store.patternFault q.filter = true) :
    (((fresh {}).after src requests).request src r).status? = some 500 := by
  obtain ⟨subject, hresponse⟩ := exists_conclude src requests hr haddressed
  rw [Exchange.status?, hresponse, handle_list_of_ok hr hq]
  generalize ((fresh {}).after src requests).catalogue = c at htable ⊢
  obtain ⟨table, n, k⟩ := c
  obtain rfl : table = .ready store := htable
  have hfault : ((Catalogue.core src).query q.filter q.order q.page q.rows
      ⟨.ready store, n, k⟩).result = .error (.store .patternTooLong) :=
    Catalogue.query_of_patternFault (fits_of_params hq) hpattern
  exact status?_of_internal_named (list_verdict_of_error hfault) CoreFault.noConfusion

/-- On a server that began empty, an addressed list request with any query string is answered with a
page or with the parameters at fault, unless its name is too long for a pattern and the table has a
row whose name is looked at. -/
theorem list_answered_iff (src : Sources) (requests : List Request) {r : Request}
    (hr : r.Reaches .list) (haddressed : r.IsAddressed) :
    let s := (fresh {}).after src requests
    (∃ response, (s.request src r).response = some response ∧
      IsListAnswer r.target.query response) ↔
    ¬ ∃ q store, Listing.ofParams (Form.params r.target.query) ListConfig.standard = .ok q ∧
      s.catalogue.table = .ready store ∧ store.patternFault q.filter = true := by
  intro s
  have hsound : s.catalogue.Sound := sound_after {} src requests
  constructor
  · rintro ⟨response, hsome, hanswer⟩ ⟨q, store, hq, htable, hpattern⟩
    have hstatus := status?_of_patternFault hr haddressed hq htable hpattern
    rw [Exchange.status?, hsome, Option.map_some, Option.some.injEq] at hstatus
    rcases hanswer.status with h | h <;> rw [h] at hstatus <;> cases hstatus
  · intro hnot
    obtain ⟨subject, hresponse⟩ := exists_conclude src requests hr haddressed
    rw [hresponse]
    cases hq : Listing.ofParams (Form.params r.target.query) ListConfig.standard with
    | error fault =>
      obtain ⟨response, hproblem, hanswer⟩ := isListAnswer_of_error rfl hq
      rw [handle_list_of_error hr hq, conclude_problem rfl, hproblem]
      exact ⟨response, rfl, hanswer⟩
    | ok q =>
      rw [handle_list_of_ok hr hq]
      obtain ⟨store, n, k, hc, hstore⟩ := hsound.exists_ready
      have hpattern : ¬ store.patternFault q.filter = true :=
        fun hpattern => hnot ⟨q, store, hq, by rw [hc], hpattern⟩
      have hfits := fits_of_params hq
      obtain ⟨found, hfound⟩ : ∃ found, ((Catalogue.core src).query q.filter q.order q.page
          q.rows ⟨.ready store, n, k⟩).result = .ok found :=
        Catalogue.exists_query hstore.wellFormed hfits hpattern
      obtain ⟨total, htotal⟩ : ∃ total, ((Catalogue.core src).count q.filter
          ⟨.ready store, n, k⟩).result = .ok total := Catalogue.exists_count hfits hpattern
      have hstate : ((Catalogue.core src).query q.filter q.order q.page q.rows
          ⟨.ready store, n, k⟩).state = ⟨.ready store, n, k⟩ :=
        Catalogue.query_state _ _ _ _ _
      rw [← hstate] at htotal
      rw [hc, conclude_respond (list_verdict_of_ok hfound htotal)]
      exact ⟨_, rfl, .page _⟩

/-- A client that lists the products whose name holds a text. -/
def getNamed (name : String) : Request where
  server := ⟨"testserver", 80⟩
  method := "GET"
  target := ⟨"/products/", "name" ++ "=" ++ name⟩
  headers := [("host", "testserver")]

theorem getNamed_reaches (name : String) : (getNamed name).Reaches .list := by
  show dispatch productRoutes "GET" "/products/" = _
  decide

theorem getNamed_isAddressed (name : String) : (getNamed name).IsAddressed :=
  ⟨by rfl, "testserver", rfl, by decide⟩

theorem ofParams_getNamed {name : String} (hname : ∀ c ∈ name.toList, c.isAlphanum = true)
    (hne : points name ≠ []) :
    Listing.ofParams (Form.params (getNamed name).target.query) ListConfig.standard =
      .ok ⟨1, 10, { name := some (points name) }, defaultOrder⟩ := by
  have hparams : Form.params (getNamed name).target.query = [(points "name", points name)] :=
    Form.params_of_isAlphanum (List.all_eq_true.1 (by decide)) hname
  rw [hparams]
  exact Listing.ofParams_name hne

theorem apples_listed :
    (getNamed "apple").Reaches .list ∧ (getNamed "apple").IsAddressed ∧
      ∃ response, (((fresh {}).after .counting [postOfApples 3]).request .counting
          (getNamed "apple")).response = some response ∧
        IsListAnswer (getNamed "apple").target.query response := by
  refine ⟨getNamed_reaches _, getNamed_isAddressed _, ?_⟩
  refine (list_answered_iff .counting [postOfApples 3] (getNamed_reaches "apple")
    (getNamed_isAddressed "apple")).2 ?_
  rintro ⟨q, store, hq, -, hpattern⟩
  rw [ofParams_getNamed (List.all_eq_true.1 (by decide)) (by decide)] at hq
  obtain rfl := Except.ok.inj hq
  have hshort : decide (Like.patternLimit < Like.patternBytes "apple") = false := by decide
  rw [Store.patternFault] at hpattern
  dsimp only at hpattern
  rw [hshort, Bool.false_and] at hpattern
  cases hpattern

/-- A name of so many letters. -/
def letters (n : Nat) : String := String.ofList (List.replicate n 'a')

theorem isAlphanum_of_mem_letters (n : Nat) : ∀ c ∈ (letters n).toList, c.isAlphanum = true := by
  intro c hc
  rw [letters, String.toList_ofList] at hc
  rw [List.eq_of_mem_replicate hc]
  decide

theorem length_letters (n : Nat) : (points (letters n)).length = n := by
  rw [points, List.length_map, letters, String.toList_ofList, List.length_replicate]

/-- Whoever lists what has a name of fifty thousand letters, while there is an apple, is told of an
internal failure. -/
theorem letters_fail :
    (getNamed (letters 50000)).Reaches .list ∧ (getNamed (letters 50000)).IsAddressed ∧
      (((fresh {}).after .counting [postOfApples 3]).request .counting
        (getNamed (letters 50000))).status? = some 500 := by
  have hlong : Like.patternLimit < Like.patternBytes (points (letters 50000)) := by
    have := Like.length_lt_patternBytes (points (letters 50000))
    rw [length_letters] at this
    rw [Like.patternLimit]
    omega
  have hne : points (letters 50000) ≠ [] := by
    rw [← List.length_pos_iff, length_letters]
    omega
  obtain ⟨store, htable⟩ := exists_table .counting [postOfApples 3]
  have hrows :
      (((fresh {}).after .counting [postOfApples 3]).catalogue.table.store?.toOption.map
        fun s => s.rows.length) = some 1 := by decide +kernel
  rw [htable] at hrows
  obtain ⟨row, hrow⟩ := List.length_eq_one_iff.1 (Option.some.inj hrows)
  refine ⟨getNamed_reaches _, getNamed_isAddressed _, ?_⟩
  refine status?_of_patternFault (getNamed_reaches _) (getNamed_isAddressed _)
    (ofParams_getNamed (isAlphanum_of_mem_letters 50000) hne) htable ?_
  rw [Store.patternFault, hrow, Bool.and_eq_true, decide_eq_true_eq]
  exact ⟨hlong, rfl⟩

end Server

end Stockroom
