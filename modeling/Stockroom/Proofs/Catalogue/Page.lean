import Stockroom.Proofs.Catalogue
import Stockroom.Proofs.Listing
import Stockroom.Proofs.Store.Order

/-!
# Pages of a list

A query sorts the rows of its filter and cuts one page out of them. So all pages of one filter in
one order are cut out of one list, which is as long as the count says.
-/

namespace Stockroom

open Number Text

/-! ## The table -/

theorem Store.page?_of_fits (s : Store) {q : Listing} (hq : q.Fits) (column : SortField)
    (reverse : Bool) :
    s.page? q.filter column reverse ((q.page - 1) * q.rows) q.rows =
      if s.patternFault q.filter then .error .patternTooLong
      else .ok (slice ((q.page - 1) * q.rows) q.rows
        (sorted q.filter column reverse (s.rows.filter (Row.satisfies q.filter)))) := by
  have hpage := hq.page
  have hrows := hq.rows
  have hoffset : fitsInt64 ((q.page - 1) * q.rows) = true := by
    have hnonneg : 0 ≤ (q.page - 1) * q.rows := Int.mul_nonneg (by omega) (by omega)
    have := hq.offset
    rw [fitsInt64, decide_eq_true_eq, maxInt64] at *
    omega
  have hlimit : fitsInt64 q.rows = true := by
    rw [fitsInt64, decide_eq_true_eq, maxInt64] at *
    omega
  have hzero : ¬ q.rows = 0 := by omega
  rw [page?, hq.filter]
  dsimp only
  rw [hoffset, hlimit, if_neg (by decide), if_neg hzero, select?, hq.filter]
  dsimp only
  cases s.patternFault q.filter <;> rfl

theorem Store.count?_of_fits (s : Store) {f : Filter} (hf : Store.filterFault? f = none) :
    s.count? f =
      if s.patternFault f then .error .patternTooLong
      else .ok (s.rows.filter (Row.satisfies f)).length := by
  rw [count?, select?, hf]
  dsimp only
  cases s.patternFault f <;> rfl

theorem Store.slice_map {α β : Type} (f : α → β) (offset limit : Int) (l : List α) :
    slice offset limit (l.map f) = (slice offset limit l).map f := by
  unfold slice
  split <;> simp

/-! ## Products of rows -/

theorem mapM_eq_ok_map {α β ε : Type} {f : α → Except ε β} {g : α → β} {l : List α}
    (h : ∀ a ∈ l, f a = .ok (g a)) : l.mapM f = .ok (l.map g) := by
  induction l with
  | nil => rfl
  | cons a l ih =>
    rw [List.forall_mem_cons] at h
    rw [List.mapM_cons, h.1, ih h.2]
    rfl

theorem mapM_product_row (l : List StoredProduct) :
    (l.map StoredProduct.row).mapM Row.product = .ok l := by
  have h : l.mapM (Row.product ∘ StoredProduct.row) = .ok (l.map id) := by
    refine mapM_eq_ok_map fun p _ => ?_
    rw [Function.comp_apply, Row.product_row]
    rfl
  rw [List.mapM_map, h, List.map_id]

theorem exists_products {rows : List Row} (h : ∀ r ∈ rows, r.WellFormed) :
    ∃ l : List StoredProduct, l.map StoredProduct.row = rows := by
  induction rows with
  | nil => exact ⟨[], rfl⟩
  | cons r rows ih =>
    rw [List.forall_mem_cons] at h
    obtain ⟨p, rfl⟩ := h.1.exists_product
    obtain ⟨l, rfl⟩ := ih h.2
    exact ⟨p :: l, rfl⟩

namespace Catalogue

variable {s : Store} {n k : Nat} {q : Listing}

theorem query_of_patternFault (hq : q.Fits) (hpattern : s.patternFault q.filter = true) :
    (query q.filter q.order q.page q.rows ⟨.ready s, n, k⟩).result =
      .error (.store .patternTooLong) := by
  obtain ⟨column, hcolumn⟩ := hq.column
  simp only [query, hcolumn, Table.store?, bind, Except.bind]
  rw [s.page?_of_fits hq, if_pos hpattern]
  rfl

theorem query_of_fits (hq : q.Fits) (hpattern : ¬ s.patternFault q.filter = true)
    {column : SortField} (hcolumn : q.order.column? = some column) {l : List StoredProduct}
    (hl : l.map StoredProduct.row = Store.sorted q.filter column q.order.isReverse
      (s.rows.filter (Row.satisfies q.filter))) :
    (query q.filter q.order q.page q.rows ⟨.ready s, n, k⟩).result =
      .ok (Store.slice ((q.page - 1) * q.rows) q.rows l) := by
  simp only [query, hcolumn, Table.store?, bind, Except.bind]
  rw [s.page?_of_fits hq, if_neg hpattern, ← hl, Store.slice_map]
  exact mapM_product_row _

theorem count_of_fits {f : Filter} (hf : Store.filterFault? f = none)
    (hpattern : ¬ s.patternFault f = true) :
    (count f ⟨.ready s, n, k⟩).result = .ok (s.rows.filter (Row.satisfies f)).length := by
  simp only [count, Table.store?, bind, Except.bind]
  rw [s.count?_of_fits hf, if_neg hpattern]
  rfl

theorem count_of_patternFault {f : Filter} (hf : Store.filterFault? f = none)
    (hpattern : s.patternFault f = true) :
    (count f ⟨.ready s, n, k⟩).result = .error (.store .patternTooLong) := by
  simp only [count, Table.store?, bind, Except.bind]
  rw [s.count?_of_fits hf, if_pos hpattern]
  rfl

theorem exists_sorted_products (hs : s.WellFormed) (f : Filter) (column : SortField)
    (reverse : Bool) : ∃ l : List StoredProduct, l.map StoredProduct.row =
      Store.sorted f column reverse (s.rows.filter (Row.satisfies f)) := by
  refine exists_products fun r hr => hs.rows r ?_
  rw [(Store.sorted_perm f column reverse _).mem_iff] at hr
  exact List.mem_of_mem_filter hr

theorem exists_query (hs : s.WellFormed) (hq : q.Fits)
    (hpattern : ¬ s.patternFault q.filter = true) :
    ∃ found, (query q.filter q.order q.page q.rows ⟨.ready s, n, k⟩).result = .ok found := by
  obtain ⟨column, hcolumn⟩ := hq.column
  obtain ⟨l, hl⟩ := exists_sorted_products hs q.filter column q.order.isReverse
  exact ⟨_, query_of_fits hq hpattern hcolumn hl⟩

theorem exists_count (hq : q.Fits) (hpattern : ¬ s.patternFault q.filter = true) :
    ∃ total, (count q.filter ⟨.ready s, n, k⟩).result = .ok total :=
  ⟨_, count_of_fits hq.filter hpattern⟩

/-! ## All pages of a list -/

end Catalogue

/-- A filter that the store takes: its name is a string with a pattern that is not too long, and its
integers have 64 bits. -/
structure Filter.Fits (f : Filter) : Prop where
  name : ∀ term, f.name = some term →
    IsClean term ∧ Like.patternBytes term ≤ Like.patternLimit
  cost : ∀ cost, f.cost = some cost → cost.fits = true
  quantity : ∀ n, f.quantity = some n → fitsInt64 n = true

/-- A list of the products of a filter, each of them once and in the order of a column. -/
structure Filter.Lists (f : Filter) (s : Store) (order : OrderBy) (field : SortField)
    (l : List StoredProduct) : Prop where
  nodup : l.Nodup
  rows : (l.map StoredProduct.row).Perm (s.rows.filter (Row.satisfies f))
  ascending : order.direction ≠ points descending →
    l.Pairwise fun p q => Row.Precedes field p.row q.row
  descending : order.direction = points descending →
    l.Pairwise fun p q => Row.Precedes field q.row p.row

theorem Filter.Lists.mem_iff {f : Filter} {s : Store} {order : OrderBy} {field : SortField}
    {l : List StoredProduct} (h : f.Lists s order field l) {p : StoredProduct} :
    p ∈ l ↔ p.row ∈ s.rows ∧ Row.satisfies f p.row = true := by
  rw [← List.mem_filter, ← h.rows.mem_iff, StoredProduct.row_mem_map]

theorem Filter.Fits.filterFault?_eq_none {f : Filter} (hf : f.Fits) :
    Store.filterFault? f = none :=
  Listing.filterFault?_eq_none (fun term hterm => (hf.name term hterm).1) hf.cost hf.quantity

theorem Filter.Fits.patternFault_eq_false {f : Filter} (hf : f.Fits) (s : Store) :
    ¬ s.patternFault f = true := by
  unfold Store.patternFault
  split
  · decide
  · next term hterm =>
    have := (hf.name term hterm).2
    simp only [Bool.and_eq_true, decide_eq_true_eq]
    omega

theorem flatten_pages {α : Type} (l : List α) (rows n : Nat) :
    ((List.range n).map fun k => (l.drop (k * rows)).take rows).flatten = l.take (n * rows) := by
  induction n with
  | zero => simp
  | succ n ih =>
    rw [List.range_succ, List.map_append, List.flatten_append, ih, Nat.succ_mul, List.take_add]
    simp

namespace Catalogue

variable {s : Store}

theorem exists_lists (hs : s.WellFormed) (f : Filter) (order : OrderBy) (field : SortField) :
    ∃ l, l.map StoredProduct.row =
        Store.sorted f field order.isReverse (s.rows.filter (Row.satisfies f)) ∧
      f.Lists s order field l := by
  obtain ⟨l, hl⟩ := exists_sorted_products hs f field order.isReverse
  have hperm := Store.sorted_perm f field order.isReverse (s.rows.filter (Row.satisfies f))
  have hordered := Store.pairwise_sorted f field order.isReverse (s.rows.filter (Row.satisfies f))
  rw [← hl] at hperm hordered
  rw [List.pairwise_map] at hordered
  have hnan : ∀ p ∈ l, p.row.cost.isNan = false := fun p hp =>
    (hs.rows _ (List.mem_of_mem_filter (hperm.mem_iff.1 (List.mem_map_of_mem hp)))).cost_isNan
  refine ⟨l, hl, ?_, hperm, fun hdirection => ?_, fun hdirection => ?_⟩
  · have hrows : s.rows.Nodup := List.Nodup.of_map Row.id hs.keyed
    exact List.Nodup.of_map StoredProduct.row (hperm.nodup_iff.2 (hrows.filter _))
  · have hreverse : order.isReverse = false := by simp [OrderBy.isReverse, hdirection]
    rw [hreverse] at hordered
    exact hordered.imp_of_mem fun hp hq h => Row.precedes_of_le (hnan _ hp) (hnan _ hq) h
  · have hreverse : order.isReverse = true := by simp [OrderBy.isReverse, hdirection]
    rw [hreverse] at hordered
    exact hordered.imp_of_mem fun hp hq h => Row.precedes_of_le (hnan _ hq) (hnan _ hp) h

theorem exists_lists_around (hs : s.WellFormed) {f : Filter} (order : OrderBy) (field : SortField)
    {p : StoredProduct} (hp : p.row ∈ s.rows) (hselected : Row.satisfies f p.row = true) :
    ∃ before behind, (before ++ p :: behind).map StoredProduct.row =
        Store.sorted f field order.isReverse (s.rows.filter (Row.satisfies f)) ∧
      f.Lists s order field (before ++ p :: behind) := by
  obtain ⟨l, hl, hlists⟩ := exists_lists hs f order field
  obtain ⟨before, behind, rfl⟩ := List.append_of_mem (hlists.mem_iff.2 ⟨hp, hselected⟩)
  exact ⟨before, behind, hl, hlists⟩

theorem query_page {f : Filter} (hf : f.Fits) {order : OrderBy} {field : SortField}
    (hfield : order.column? = some field) {l : List StoredProduct}
    (hl : l.map StoredProduct.row =
      Store.sorted f field order.isReverse (s.rows.filter (Row.satisfies f)))
    {page rows : Int} (hpage : 1 ≤ page) (hrows : 1 ≤ rows ∧ rows ≤ maxInt64)
    (hoffset : (page - 1) * rows ≤ maxInt64) (n k : Nat) :
    (query f order page rows ⟨.ready s, n, k⟩).result =
      .ok ((l.drop ((page - 1) * rows).toNat).take rows.toNat) := by
  have hfits : Listing.Fits ⟨page, rows, f, order⟩ :=
    ⟨hpage, hrows, hoffset, hf.filterFault?_eq_none, ⟨field, hfield⟩⟩
  refine (query_of_fits hfits (hf.patternFault_eq_false s) hfield hl).trans ?_
  dsimp only
  rw [Store.slice, if_neg (by omega)]

/-- All pages of a filter in an order are cut out of one list, which is as long as the count. -/
theorem pages_partition (src : Sources) (calls : List Call) {f : Filter} (hf : f.Fits)
    {order : OrderBy} {field : SortField} (hfield : order.column? = some field) :
    let c := (core src).after calls {}
    ∃ s l, c.table = .ready s ∧ f.Lists s order field l ∧ (count f c).result = .ok l.length ∧
      ∀ rows : Int, 1 ≤ rows → rows ≤ maxInt64 →
        (∀ page : Int, 1 ≤ page → (page - 1) * rows ≤ maxInt64 →
          ∃ found, (query f order page rows c).result = .ok found ∧
            found = (l.drop ((page - 1) * rows).toNat).take rows.toNat ∧
            (found.length : Int) = min rows (max 0 (l.length - (page - 1) * rows))) ∧
        ∀ n : Nat, ((n : Int) - 1) * rows ≤ maxInt64 →
          ∃ pages, (List.range n).mapM (fun k : Nat => (query f order (k + 1) rows c).result) =
              .ok pages ∧
            pages.flatten = l.take (n * rows.toNat) := by
  intro c
  obtain ⟨s, i, k, hc, hs⟩ := (wellFormed_after src calls).exists_ready
  obtain ⟨l, hl, hlists⟩ := exists_lists hs f order field
  refine ⟨s, l, congrArg Catalogue.table hc, hlists, ?_, fun rows hone hmax => ?_⟩
  · show (count f ((core src).after calls {})).result = _
    rw [hc, count_of_fits hf.filterFault?_eq_none (hf.patternFault_eq_false s),
      ← hlists.rows.length_eq, List.length_map]
  · have hquery (page : Int) (hpage : 1 ≤ page) (hoffset : (page - 1) * rows ≤ maxInt64) :
        (query f order page rows c).result =
          .ok ((l.drop ((page - 1) * rows).toNat).take rows.toNat) := by
      show (query f order page rows ((core src).after calls {})).result = _
      rw [hc]
      exact query_page hf hfield hl hpage ⟨hone, hmax⟩ hoffset i k
    refine ⟨fun page hpage hoffset => ⟨_, hquery page hpage hoffset, rfl, ?_⟩, fun n hn => ?_⟩
    · have hnonneg : 0 ≤ (page - 1) * rows := Int.mul_nonneg (by omega) (by omega)
      rw [List.length_take, List.length_drop]
      omega
    · refine ⟨_, mapM_eq_ok_map fun k hk => ?_, flatten_pages l rows.toNat n⟩
      rw [List.mem_range] at hk
      have hle : (k : Int) * rows ≤ (n - 1) * rows :=
        Int.mul_le_mul_of_nonneg_right (by omega) (by omega)
      have hnat : ((k : Int) * rows).toNat = k * rows.toNat := by
        rw [Int.toNat_mul (by omega) (by omega), Int.toNat_natCast]
      have := hquery (k + 1) (by omega) (by rw [Int.add_sub_cancel]; omega)
      rw [Int.add_sub_cancel, hnat] at this
      exact this

def fruit (name : String) : NewProduct := ⟨name, .ofInt 1, 1, ⟨7⟩⟩

theorem fruit_on_two_pages :
    let f : Filter := { name := some "P" }
    let order : OrderBy := ⟨SortField.name.text, descending⟩
    let fruits := ["apple", "plum", "pear"].map fruit
    let c := (core .counting).after (fruits.map .create) {}
    f.Fits ∧ order.column? = some .name ∧
      ∃ s l first second, c.table = .ready s ∧ f.Lists s order .name l ∧ l.length = 3 ∧
        (query f order 1 2 c).result = .ok first ∧ (query f order 2 2 c).result = .ok second ∧
        first.length = 2 ∧ second.length = 1 ∧ first ++ second = l := by
  intro f order fruits c
  have hfits : f.Fits := by
    refine ⟨?_, fun cost hcost => ?_, fun n hn => ?_⟩
    · rintro term ⟨⟩
      exact ⟨isClean_points "P", by decide⟩
    · cases hcost
    · cases hn
  have hfield : order.column? = some .name := by decide
  obtain ⟨s, l, htable, hlists, hcount, hpages⟩ := pages_partition .counting _ hfits hfield
  obtain ⟨hpage, -⟩ := hpages 2 (by decide) (by decide)
  obtain ⟨first, hfirst, hcut, -⟩ := hpage 1 (by decide) (by decide)
  obtain ⟨second, hsecond, hcut', -⟩ := hpage 2 (by decide) (by decide)
  have hlength : l.length = 3 := by
    have hthree : (count f c).result.toOption = some 3 := by decide
    rw [hcount] at hthree
    exact Option.some.inj hthree
  have hrest : (l.drop 2).length ≤ 2 := by simp [hlength]
  have hsecond' : second = l.drop 2 := hcut'.trans (List.take_of_length_le hrest)
  refine ⟨hfits, hfield, s, l, first, second, htable, hlists, hlength, hfirst, hsecond, ?_⟩
  rw [hcut, hsecond']
  exact ⟨by simp [hlength], by simp [hlength], List.take_append_drop 2 l⟩

/-- A name that is no string and an integer that has more than 64 bits are refused as filters. -/
theorem refused_filters :
    Like.patternBytes [0xD800] ≤ Like.patternLimit ∧
      ∀ f ∈ [({ name := some [0xD800] } : Filter), { cost := some (.whole (maxInt64 + 1)) }],
        f.quantity = none ∧ (∀ n, (count f {}).result ≠ .ok n) ∧
          ∀ found, (query f defaultOrder 1 10 {}).result ≠ .ok found := by
  refine ⟨by decide, fun f hf => ?_⟩
  simp only [List.mem_cons, List.not_mem_nil, or_false] at hf
  rcases hf with rfl | rfl <;> refine ⟨rfl, ?_, ?_⟩ <;> rintro _ ⟨⟩

end Catalogue

end Stockroom
