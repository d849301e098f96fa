import Stockroom.Proofs.Catalogue.Filter
import Stockroom.Proofs.Uuid.Order

/-!
# Identifiers in columns

A table holds identifiers as text. A product is looked up under the text of its id, a filter
compares texts, a list is sorted by them, and what a row holds is read back from them. All of that
comes out as if the columns held the numbers that the identifiers are.
-/

namespace Stockroom

open Number Text

/-! ## Columns of identifiers -/

/-- The columns that hold identifiers, each with the identifier of a product that it holds. -/
inductive IdColumn : SortField → (StoredProduct → Uuid) → Prop
  | id : IdColumn .id StoredProduct.id
  | userId : IdColumn .userId StoredProduct.userId

/-- Products in the order of the numbers of an identifier, or in the reverse of it. -/
def OrderedBy (idOf : StoredProduct → Uuid) (reverse : Bool) (l : List StoredProduct) : Prop :=
  l.Pairwise fun p q =>
    if reverse then (idOf q).value.toNat ≤ (idOf p).value.toNat
    else (idOf p).value.toNat ≤ (idOf q).value.toNat

namespace IdColumn

variable {field : SortField} {idOf : StoredProduct → Uuid}

theorem le_iff (h : IdColumn field idOf) {p q : StoredProduct} :
    Row.le field p.row q.row = true ↔ (idOf p).value.toNat ≤ (idOf q).value.toNat := by
  cases h <;> exact Uuid.text_le_iff

theorem ordered_iff (h : IdColumn field idOf) (reverse : Bool) {p q : StoredProduct} :
    Row.ordered field reverse p.row q.row = true ↔
      if reverse then (idOf q).value.toNat ≤ (idOf p).value.toNat
      else (idOf p).value.toNat ≤ (idOf q).value.toNat := by
  cases reverse <;> exact h.le_iff

theorem orderedBy (h : IdColumn field idOf) {f : Filter} {reverse : Bool} {l : List StoredProduct}
    {rows : List Row} (hl : (l.map StoredProduct.row).Sublist (Store.sorted f field reverse rows)) :
    OrderedBy idOf reverse l := by
  have hordered := (Store.pairwise_sorted f field reverse rows).sublist hl
  rw [List.pairwise_map] at hordered
  exact hordered.imp (h.ordered_iff reverse).1

end IdColumn

/-! ## Filters on identifiers -/

namespace Filter

/-- A product has the identifiers that a filter asks for. -/
structure Identifies (f : Filter) (p : StoredProduct) : Prop where
  id : ∀ id, f.id = some id → p.id = id
  userId : ∀ id, f.userId = some id → p.userId = id

/-- What a filter asks for besides identifiers. -/
def besidesIds (f : Filter) : Filter := { f with id := none, userId := none }

theorem identifies_all (p : StoredProduct) : Identifies {} p := by
  constructor <;> rintro _ ⟨⟩

end Filter

theorem Row.satisfies_iff_identifies {f : Filter} {p : StoredProduct} :
    satisfies f p.row = true ↔ f.Identifies p ∧ satisfies f.besidesIds p.row = true := by
  simp only [satisfies, Filter.besidesIds, Bool.and_eq_true, allows_iff, StoredProduct.row,
    beq_iff_eq, Uuid.text_inj, reduceCtorEq, false_implies, implies_true, true_and, and_true]
  constructor
  · rintro ⟨⟨⟨⟨hid, hname⟩, hcost⟩, hquantity⟩, huser⟩
    exact ⟨⟨hid, huser⟩, ⟨hname, hcost⟩, hquantity⟩
  · rintro ⟨⟨hid, huser⟩, ⟨hname, hcost⟩, hquantity⟩
    exact ⟨⟨⟨⟨hid, hname⟩, hcost⟩, hquantity⟩, huser⟩

/-! ## Rows of products -/

namespace Store

variable {s : Store} {ps : List StoredProduct}

theorem find?_text (hrows : s.rows = ps.map StoredProduct.row) (id : Uuid) :
    s.find? id.text = (ps.find? (·.id = id)).map StoredProduct.row := by
  have hkey : (fun r : Row => r.id == id.text) ∘ StoredProduct.row =
      fun p => decide (p.id = id) := by
    funext p
    rw [Function.comp_apply, StoredProduct.row_id, Bool.eq_iff_iff, beq_iff_eq, decide_eq_true_eq,
      Uuid.text_inj]
  rw [find?, hrows, List.find?_map, hkey]

theorem nodup_ids (hrows : s.rows = ps.map StoredProduct.row) (hs : s.Keyed) :
    (ps.map StoredProduct.id).Nodup := by
  rw [Keyed, hrows, List.map_map] at hs
  refine List.Nodup.of_map Uuid.text ?_
  rwa [List.map_map]

theorem selected_iff (hrows : s.rows = ps.map StoredProduct.row) {f : Filter} {p : StoredProduct} :
    p.row ∈ s.rows ∧ Row.satisfies f p.row = true ↔
      p ∈ ps ∧ f.Identifies p ∧ Row.satisfies f.besidesIds p.row = true := by
  rw [hrows, StoredProduct.row_mem_map, Row.satisfies_iff_identifies]

end Store

namespace Catalogue

variable {s : Store} {ps : List StoredProduct} {n k : Nat}

theorem queryById_eq (hrows : s.rows = ps.map StoredProduct.row) (id : Uuid) :
    (queryById id ⟨.ready s, n, k⟩).result =
      match ps.find? (·.id = id) with
      | some p => .ok p
      | none => .error (.notFound id) := by
  simp only [queryById, Table.store?, Store.find?_text hrows]
  cases ps.find? (·.id = id) with
  | none => simp only [Option.map_none]
  | some p => simp only [Option.map_some, Row.product_row]

/-! ## Lists in the order of an identifier -/

section

variable {f : Filter} {order : OrderBy} {field : SortField} {idOf : StoredProduct → Uuid}
  (hs : s.WellFormed) (hfield : order.column? = some field)
include hs hfield

theorem query_sublist {page rows : Int} {found : List StoredProduct}
    (h : (query f order page rows ⟨.ready s, n, k⟩).result = .ok found) :
    (found.map StoredProduct.row).Sublist
      (Store.sorted f field order.isReverse (s.rows.filter (Row.satisfies f))) := by
  simp only [query, hfield, Table.store?, bind, Except.bind] at h
  cases hpage : s.page? f field order.isReverse ((page - 1) * rows) rows with
  | error fault =>
    rw [hpage] at h
    cases h
  | ok cut =>
    rw [hpage] at h
    obtain ⟨l, rfl⟩ :=
      exists_products fun r hr => hs.rows r (Store.mem_of_mem_page? hpage hr)
    obtain rfl : l = found := Except.ok.inj ((mapM_product_row l).symm.trans h)
    exact Store.page?_sublist hpage

variable (hrows : s.rows = ps.map StoredProduct.row) (hcolumn : IdColumn field idOf)
include hrows hcolumn

theorem orderedBy_query {page rows : Int} {found : List StoredProduct}
    (h : (query f order page rows ⟨.ready s, n, k⟩).result = .ok found) :
    OrderedBy idOf order.isReverse found ∧ ∀ p ∈ found, p ∈ ps ∧ f.Identifies p := by
  have hcut := query_sublist hs hfield h
  refine ⟨hcolumn.orderedBy hcut, fun p hp => ?_⟩
  have hmem := hcut.subset (List.mem_map_of_mem hp)
  rw [(Store.sorted_perm _ _ _ _).mem_iff, List.mem_filter, Store.selected_iff hrows] at hmem
  exact ⟨hmem.1, hmem.2.1⟩

theorem exists_orderedBy (hf : f.Fits) :
    ∃ l, OrderedBy idOf order.isReverse l ∧ l.Nodup ∧
      (∀ p, p ∈ l ↔ p ∈ ps ∧ f.Identifies p ∧ Row.satisfies f.besidesIds p.row = true) ∧
      ∀ page rows : Int, 1 ≤ page → 1 ≤ rows → rows ≤ maxInt64 → (page - 1) * rows ≤ maxInt64 →
        (query f order page rows ⟨.ready s, n, k⟩).result =
          .ok ((l.drop ((page - 1) * rows).toNat).take rows.toNat) := by
  obtain ⟨l, hl, hlists⟩ := exists_lists hs f order field
  refine ⟨l, hcolumn.orderedBy (by rw [hl]), hlists.nodup, fun p => ?_, ?_⟩
  · exact hlists.mem_iff.trans (Store.selected_iff hrows)
  · intro page rows hpage hone hmax hoffset
    exact query_page hf hfield hl hpage ⟨hone, hmax⟩ hoffset n k

end

/-- A table holds its identifiers as texts that are equal, come before each other in bytes and read
back as the identifiers do. So its rows are those of products that are read back from it, a product
is found under its id, and a list in the order of a column of identifiers has the products with the
identifiers that its filter asks for in the order of the numbers. -/
theorem texts_agree_with_ids (src : Sources) (calls : List Call) :
    let c := (core src).after calls {}
    (∀ u v : Uuid, (u.text = v.text ↔ u = v) ∧
      (LexLt (utf8 u.text) (utf8 v.text) ↔ u.value.toNat < v.value.toNat) ∧
      Uuid.ofText? u.text = some u) ∧
    ∃ (s : Store) (ps : List StoredProduct), c.table = .ready s ∧
      (s.rows = ps.map StoredProduct.row ∧ s.rows.mapM Row.product = .ok ps ∧
        (ps.map StoredProduct.id).Nodup) ∧
      (∀ id, s.find? id.text = (ps.find? (·.id = id)).map StoredProduct.row ∧
        (queryById id c).result =
          match ps.find? (·.id = id) with
          | some p => .ok p
          | none => .error (.notFound id)) ∧
      ∀ field idOf, IdColumn field idOf → ∀ (f : Filter) (order : OrderBy),
        order.column? = some field →
        (∀ page rows found, (query f order page rows c).result = .ok found →
          OrderedBy idOf order.isReverse found ∧ ∀ p ∈ found, p ∈ ps ∧ f.Identifies p) ∧
        (f.Fits → ∃ l, OrderedBy idOf order.isReverse l ∧ l.Nodup ∧
          (∀ p, p ∈ l ↔ p ∈ ps ∧ f.Identifies p ∧ Row.satisfies f.besidesIds p.row = true) ∧
          ∀ page rows : Int, 1 ≤ page → 1 ≤ rows → rows ≤ maxInt64 →
            (page - 1) * rows ≤ maxInt64 → (query f order page rows c).result =
              .ok ((l.drop ((page - 1) * rows).toNat).take rows.toNat)) := by
  intro c
  obtain ⟨s, n, k, hc, hs⟩ := (wellFormed_after src calls).exists_ready
  obtain ⟨ps, hps⟩ := exists_products hs.rows
  have hrows : s.rows = ps.map StoredProduct.row := hps.symm
  have hready : c = ⟨.ready s, n, k⟩ := hc
  rw [hready]
  refine ⟨fun u v => ⟨Uuid.text_inj, Uuid.utf8_text_lexLt_iff, Uuid.ofText?_text u⟩, s, ps, rfl,
    ⟨hrows, ?_, Store.nodup_ids hrows hs.keyed⟩, fun id => ?_, ?_⟩
  · rw [hrows, mapM_product_row]
  · exact ⟨Store.find?_text hrows id, queryById_eq hrows id⟩
  · intro field idOf hcolumn f order hfield
    exact ⟨fun page rows found => orderedBy_query hs hfield hrows hcolumn,
      exists_orderedBy hs hfield hrows hcolumn⟩

/-- Sources that do not draw ids in the order of their numbers. -/
def scattered : Sources :=
  { Sources.counting with ids := fun n => [⟨0xB⟩, ⟨0x1A000000000000000000000000⟩].getD n ⟨9⟩ }

def scatteredFruit (n : Nat) (name : String) : StoredProduct :=
  { storedFruit n name with id := scattered.ids n }

/-- The ids of an apple, a plum and a pear are `b`, `1a` with zeros behind it, and `9`. -/
theorem scattered_fruit_sorted :
    let calls := ["apple", "plum", "pear"].map fun name => Call.create (fruit name)
    let c := (core scattered).after calls {}
    let apple := scatteredFruit 0 "apple"
    let plum := scatteredFruit 1 "plum"
    let pear := scatteredFruit 2 "pear"
    defaultOrder.column? = some .id ∧ Filter.Fits {} ∧
      (query {} defaultOrder 1 3 c).result = .ok [pear, apple, plum] ∧
      (queryById ⟨0xB⟩ c).result = .ok apple ∧
      (queryById ⟨0xC⟩ c).result = .error (.notFound ⟨0xC⟩) := by
  intro calls c apple plum pear
  have hfield : defaultOrder.column? = some .id := by decide
  obtain ⟨-, s, ps, htable, ⟨hrows, -, -⟩, hfind, hcolumns⟩ :=
    texts_agree_with_ids scattered calls
  have hps : ps = [apple, plum, pear] := by
    have hstored : c.table = .ready ⟨[apple, plum, pear].map StoredProduct.row⟩ := by decide
    rw [Table.ready.inj (htable.symm.trans hstored)] at hrows
    exact (List.map_injective_iff.2 (fun _ _ => StoredProduct.row_injective) hrows).symm
  subst hps
  obtain ⟨-, hlist⟩ := hcolumns .id StoredProduct.id .id {} defaultOrder hfield
  obtain ⟨l, hordered, hnodup, hmem, hpages⟩ := hlist Filter.fits_all
  -- The ids differ, so there is one list of these products in the order of their ids.
  have hl : l = [pear, apple, plum] := by
    have hperm : l.Perm [pear, apple, plum] := by
      refine (List.perm_ext_iff_of_nodup hnodup (by decide)).2 fun p => ?_
      rw [hmem, and_iff_left ⟨Filter.identifies_all p, rfl⟩]
      simp only [List.mem_cons, List.not_mem_nil, or_false]
      tauto
    have hantisymm : ∀ p ∈ [pear, apple, plum], ∀ q ∈ [pear, apple, plum],
        p.id.value.toNat ≤ q.id.value.toNat → q.id.value.toNat ≤ p.id.value.toNat → p = q := by
      decide
    refine List.Perm.eq_of_pairwise (fun p q hp hq => ?_) hordered ?_ hperm
    · exact hantisymm p (hperm.mem_iff.1 hp) q hq
    · decide
  refine ⟨hfield, Filter.fits_all, ?_, (hfind ⟨0xB⟩).2, (hfind ⟨0xC⟩).2⟩
  rw [hpages 1 3 (by decide) (by decide) (by decide) (by decide), hl]
  rfl

end Catalogue

end Stockroom
