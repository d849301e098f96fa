import Mathlib.Algebra.Group.Int.Defs
import Stockroom.Proofs.Catalogue.Page
import Stockroom.Proofs.Store.Like

/-!
# What a filter selects

A filter admits the products that agree with it in every field that it sets. Of the products in the
table those are on the pages of a list, and the count is the number of them. So two filters that set
different fields select together what both of them select.
-/

namespace Stockroom

open Number Text

/-! ## Numbers -/

namespace Number

theorem Real64.neg_1074_le_exponent (rank : Nat) : -1074 ≤ (magnitude rank).2 := by
  unfold magnitude
  split
  · exact Int.le_refl _
  · next h =>
    have : 1 ≤ rank / binade := (Nat.one_le_div_iff (by decide)).2 (Nat.le_of_not_lt h)
    dsimp only
    omega

theorem quotient_eq_some_iff {m unit : Nat} (hunit : 0 < unit) {sign n : Int}
    (hsign : sign = 1 ∨ sign = -1) :
    (if m % unit = 0 then some (sign * (m / unit : Nat)) else none) = some n ↔
      n * unit = sign * m := by
  have hself : sign * sign = 1 := by rcases hsign with rfl | rfl <;> decide
  split
  · next hrest =>
    obtain ⟨q, rfl⟩ := Nat.dvd_of_mod_eq_zero hrest
    rw [Nat.mul_div_cancel_left q hunit, Option.some.injEq, Int.natCast_mul, Int.mul_comm unit,
      ← Int.mul_assoc, Int.mul_eq_mul_right_iff (by omega), eq_comm]
  · next hrest =>
    refine ⟨(fun h => nomatch h), fun h => absurd ?_ hrest⟩
    have hm : (m : Int) = sign * n * unit := by
      rw [Int.mul_assoc, h, ← Int.mul_assoc, hself, Int.one_mul]
    exact Nat.mod_eq_zero_of_dvd (Int.natCast_dvd_natCast.1 (hm ▸ Int.dvd_mul_left _ _))

theorem scaled_eq_some_iff {m bias : Nat} {exponent : Int} (hle : -(bias : Int) ≤ exponent)
    {sign n : Int} (hsign : sign = 1 ∨ sign = -1) :
    (if 0 ≤ exponent then some (sign * (m * 2 ^ exponent.toNat : Nat))
      else if m % 2 ^ (-exponent).toNat = 0 then
        some (sign * (m / 2 ^ (-exponent).toNat : Nat)) else none) = some n ↔
      n * 2 ^ bias = sign * (m * 2 ^ (exponent + bias).toNat : Nat) := by
  have hcast (u k : Nat) : ((u * 2 ^ k : Nat) : Int) = u * 2 ^ k := by
    rw [Int.natCast_mul, Int.natCast_pow]
    rfl
  have hne (k : Nat) : (2 ^ k : Int) ≠ 0 := (Int.pow_pos (by decide)).ne'
  split
  · -- A whole number: both sides have 2 ^ bias as a factor.
    have hsum : (exponent + bias).toNat = exponent.toNat + bias := by omega
    rw [Option.some.injEq, hsum, Nat.pow_add, ← Nat.mul_assoc, hcast (m * _) bias,
      ← Int.mul_assoc, Int.mul_eq_mul_right_iff (hne bias), eq_comm]
  · -- A fraction: both sides have the power above its unit as a factor.
    have hsum : bias = (-exponent).toNat + (exponent + bias).toNat := by omega
    have hsplit : (2 ^ bias : Int) = 2 ^ (-exponent).toNat * 2 ^ (exponent + bias).toNat := by
      rw [← Int.pow_add, ← hsum]
    rw [quotient_eq_some_iff (Nat.two_pow_pos _) hsign, hsplit, ← Int.mul_assoc, hcast,
      ← Int.mul_assoc, Int.mul_eq_mul_right_iff (hne _), Int.natCast_pow]
    rfl

/-- A finite real is an integer if the least real above zero goes into both as often. -/
theorem Real64.toInt?_eq_some_iff {x : Real64} (hx : x.isFinite = true) {n : Int} :
    x.toInt? = some n ↔ n * 2 ^ 1074 = x.units := by
  cases x with
  | nan => cases hx
  | signed negative rank =>
    rw [isFinite, decide_eq_true_eq] at hx
    rw [toInt?, if_pos hx, units, unitsOfRank]
    have hsign (sign : Int) (h : sign = if negative then -1 else 1) : sign = 1 ∨ sign = -1 := by
      cases negative <;> simp [h]
    have hunits (u : Nat) :
        (if negative then -(u : Int) else u) = (if negative then -1 else 1) * u := by
      cases negative <;> simp
    rw [hunits]
    exact scaled_eq_some_iff (neg_1074_le_exponent rank.val) (hsign _ rfl)

/-- Whether an amount and a real are one number. What is not a number is not one with any. -/
def Amount.IsEqual : Amount → Real64 → Prop
  | .whole n, x => x.isFinite = true ∧ n * 2 ^ 1074 = x.units
  | .real y, x => y.isNan = false ∧ x.isNan = false ∧ y.units = x.units

theorem Real64.same_iff {x y : Real64} :
    x.same y = true ↔ x.isNan = false ∧ y.isNan = false ∧ x.units = y.units := by
  rw [same, Bool.and_eq_true, Bool.and_eq_true, Bool.not_eq_true', Bool.not_eq_true', and_assoc,
    decide_eq_true_eq]
  refine and_congr_right fun hx => and_congr_right fun hy => ?_
  have hle := le_iff_units_le hx hy
  have hge := le_iff_units_le hy hx
  simp only [le, decide_eq_true_eq] at hle hge
  omega

theorem Real64.isFinite_of_toInt? {x : Real64} {n : Int} (h : x.toInt? = some n) :
    x.isFinite = true := by
  cases x with
  | nan => cases h
  | signed negative rank =>
    rw [isFinite, decide_eq_true_eq]
    by_contra hrank
    rw [toInt?, if_neg hrank] at h
    cases h

theorem Amount.equals_iff {a : Amount} {x : Real64} : a.equals x = true ↔ a.IsEqual x := by
  cases a with
  | whole n =>
    rw [equals, beq_iff_eq, IsEqual]
    constructor
    · intro h
      have hx := Real64.isFinite_of_toInt? h
      exact ⟨hx, (Real64.toInt?_eq_some_iff hx).1 h⟩
    · rintro ⟨hx, h⟩
      exact (Real64.toInt?_eq_some_iff hx).2 h
  | real y =>
    rw [equals, Real64.same_iff, IsEqual]
    tauto

end Number

/-! ## Filters -/

namespace Filter

/-- A product that agrees with a filter in every field that the filter sets. -/
structure Admits (f : Filter) (p : StoredProduct) : Prop where
  id : ∀ id, f.id = some id → p.id = id
  name : ∀ term, f.name = some term → Like.Contains term p.name
  cost : ∀ cost, f.cost = some cost → cost.IsEqual p.cost
  quantity : ∀ n, f.quantity = some n → p.quantity = n
  userId : ∀ id, f.userId = some id → p.userId = id

def and (f g : Filter) : Filter :=
  ⟨f.id.or g.id, f.name.or g.name, f.cost.or g.cost, f.quantity.or g.quantity,
    f.userId.or g.userId⟩

structure Disjoint (f g : Filter) : Prop where
  id : f.id = none ∨ g.id = none
  name : f.name = none ∨ g.name = none
  cost : f.cost = none ∨ g.cost = none
  quantity : f.quantity = none ∨ g.quantity = none
  userId : f.userId = none ∨ g.userId = none

theorem Fits.and {f g : Filter} (hf : f.Fits) (hg : g.Fits) : (f.and g).Fits where
  name term h := (Option.or_eq_some_iff.1 h).elim (hf.name term) fun h => hg.name term h.2
  cost cost h := (Option.or_eq_some_iff.1 h).elim (hf.cost cost) fun h => hg.cost cost h.2
  quantity n h := (Option.or_eq_some_iff.1 h).elim (hf.quantity n) fun h => hg.quantity n h.2

theorem fits_all : Fits {} := by
  constructor <;> rintro _ ⟨⟩

theorem fits_id (id : Uuid) : Fits { id := some id } := by
  constructor <;> rintro _ ⟨⟩

theorem fits_name {term : String} (h : Like.patternBytes term ≤ Like.patternLimit) :
    Fits { name := some term } := by
  constructor <;> rintro _ ⟨⟩
  exact ⟨isClean_points term, h⟩

theorem admits_all (p : StoredProduct) : Admits {} p := by
  constructor <;> rintro _ ⟨⟩

theorem admits_id_iff {id : Uuid} {p : StoredProduct} : Admits { id := some id } p ↔ p.id = id := by
  refine ⟨fun h => h.id id rfl, fun h => ?_⟩
  constructor <;> rintro _ ⟨⟩
  exact h

theorem admits_name_iff {term : Points} {p : StoredProduct} :
    Admits { name := some term } p ↔ Like.Contains term p.name := by
  refine ⟨fun h => h.name term rfl, fun h => ?_⟩
  constructor <;> rintro _ ⟨⟩
  exact h

theorem admits_cost_iff {cost : Amount} {p : StoredProduct} :
    Admits { cost := some cost } p ↔ cost.IsEqual p.cost := by
  refine ⟨fun h => h.cost cost rfl, fun h => ?_⟩
  constructor <;> rintro _ ⟨⟩
  exact h

end Filter

namespace Row

theorem allows_iff {α : Type} {test : α → Bool} {constraint : Option α} :
    allows test constraint = true ↔ ∀ a, constraint = some a → test a = true := by
  cases constraint <;> simp [allows]

theorem allows_or {α : Type} (test : α → Bool) {a b : Option α} (h : a = none ∨ b = none) :
    allows test (a.or b) = (allows test a && allows test b) := by
  rcases h with rfl | rfl
  · rw [Option.none_or, allows, Bool.true_and]
  · rw [Option.or_none, allows, Bool.and_true]

theorem satisfies_and {f g : Filter} (h : f.Disjoint g) (r : Row) :
    satisfies (f.and g) r = (satisfies f r && satisfies g r) := by
  simp only [satisfies, Filter.and, allows_or _ h.id, allows_or _ h.name, allows_or _ h.cost,
    allows_or _ h.quantity, allows_or _ h.userId]
  ac_rfl

theorem satisfies_row_iff {f : Filter} (hplain : ∀ term, f.name = some term → Like.IsPlain term)
    {p : StoredProduct} (hname : Like.IsPlain p.name) : satisfies f p.row = true ↔ f.Admits p := by
  simp only [satisfies, Bool.and_eq_true, allows_iff, StoredProduct.row, Amount.equals_iff,
    beq_iff_eq, Uuid.text_inj]
  constructor
  · rintro ⟨⟨⟨⟨hid, hterm⟩, hcost⟩, hquantity⟩, huser⟩
    refine ⟨hid, fun term h => ?_, hcost, hquantity, huser⟩
    exact ((hplain term h).nameMatches_iff hname).1 (hterm term h)
  · rintro ⟨hid, hterm, hcost, hquantity, huser⟩
    refine ⟨⟨⟨⟨hid, fun term h => ?_⟩, hcost⟩, hquantity⟩, huser⟩
    exact ((hplain term h).nameMatches_iff hname).2 (hterm term h)

end Row

/-! ## Pages -/

theorem exists_window {α : Type} {l : List α} {a : α} (ha : a ∈ l) {rows : Nat}
    (hrows : 0 < rows) : ∃ k, k * rows < l.length ∧ a ∈ (l.drop (k * rows)).take rows := by
  obtain ⟨i, hi, rfl⟩ := List.mem_iff_getElem.1 ha
  have hdiv := Nat.div_add_mod' i rows
  have hmod := Nat.mod_lt i hrows
  refine ⟨i / rows, by omega, List.mem_iff_getElem.2 ⟨i % rows, ?_, ?_⟩⟩
  · rw [List.length_take, List.length_drop]
    omega
  · simp only [List.getElem_take, List.getElem_drop, hdiv]

namespace Catalogue

/-- A product that stands on some page of a list. -/
def Shows (c : Catalogue) (f : Filter) (order : OrderBy) (rows : Int) (p : StoredProduct) : Prop :=
  ∃ page : Int, 1 ≤ page ∧ ∃ found, (query f order page rows c).result = .ok found ∧ p ∈ found

variable {s : Store} {n k : Nat} {f : Filter} {order : OrderBy} {field : SortField}

theorem query_of_not_fitsInt64 (hf : f.Fits) (hfield : order.column? = some field)
    {page rows : Int}
    (h : fitsInt64 ((page - 1) * rows) = false ∨ fitsInt64 rows = false) :
    (query f order page rows ⟨.ready s, n, k⟩).result = .error (.store .integerTooLarge) := by
  have hlarge : (!fitsInt64 ((page - 1) * rows) || !fitsInt64 rows) = true := by
    rcases h with h | h <;> simp [h]
  simp only [query, hfield, Table.store?, bind, Except.bind, Store.page?, hf.filterFault?_eq_none,
    hlarge, if_true]
  rfl

theorem query_of_unknownField (hfield : order.column? = none) (page rows : Int) (c : Catalogue) :
    (query f order page rows c).result = .error (.unknownField order.field) := by
  simp only [query, hfield]

theorem query_of_filterFault {fault : StoreFault} (hf : Store.filterFault? f = some fault)
    (hfield : order.column? = some field) (page rows : Int) :
    (query f order page rows ⟨.ready s, n, k⟩).result = .error (.store fault) := by
  simp only [query, hfield, Table.store?, bind, Except.bind, Store.page?, hf]
  rfl

theorem count_of_filterFault {fault : StoreFault} (hf : Store.filterFault? f = some fault) :
    (count f ⟨.ready s, n, k⟩).result = .error (.store fault) := by
  simp only [count, Table.store?, bind, Except.bind, Store.count?, Store.select?, hf]
  rfl

theorem not_shows_of_error {c : Catalogue} {rows : Int} {p : StoredProduct} {fault : CoreFault}
    (h : ∀ page : Int, 1 ≤ page → (query f order page rows c).result = .error fault) :
    ¬ c.Shows f order rows p := by
  rintro ⟨page, hpage, found, hfound, -⟩
  rw [h page hpage] at hfound
  cases hfound

theorem shows_iff (hs : s.WellFormed) (hsize : (s.rows.length : Int) ≤ maxInt64) (hf : f.Fits)
    (hfield : order.column? = some field) {rows : Int} (hrows : 1 ≤ rows)
    (hmax : rows ≤ maxInt64) {p : StoredProduct} :
    Shows ⟨.ready s, n, k⟩ f order rows p ↔ p.row ∈ s.rows ∧ Row.satisfies f p.row = true := by
  obtain ⟨l, hl, hlists⟩ := exists_lists hs f order field
  rw [← hlists.mem_iff]
  constructor
  · rintro ⟨page, hpage, found, hfound, hp⟩
    by_cases hoffset : (page - 1) * rows ≤ maxInt64
    · rw [query_page hf hfield hl hpage ⟨hrows, hmax⟩ hoffset, Except.ok.injEq] at hfound
      rw [← hfound] at hp
      exact List.mem_of_mem_drop (List.mem_of_mem_take hp)
    · -- A page that begins beyond 64 bits is refused, so nothing stands on it.
      have hlarge : fitsInt64 ((page - 1) * rows) = false := by
        rw [fitsInt64, decide_eq_false_iff_not]
        omega
      rw [query_of_not_fitsInt64 hf hfield (Or.inl hlarge)] at hfound
      cases hfound
  · -- The product stands on the page of its place in the list, divided by the rows of a page.
    intro hp
    have hlength : l.length ≤ s.rows.length := by
      rw [← List.length_map, hlists.rows.length_eq]
      exact List.length_filter_le _ _
    have hpos : 0 < rows.toNat := by omega
    obtain ⟨i, hi, hwindow⟩ := exists_window hp hpos
    have hoffset : (((i : Int) + 1 - 1) * rows).toNat = i * rows.toNat := by
      rw [Int.add_sub_cancel, Int.toNat_mul (by omega) (by omega), Int.toNat_natCast]
    refine ⟨i + 1, by omega, _, query_page hf hfield hl (by omega) ⟨hrows, hmax⟩ (by omega) n k, ?_⟩
    rw [hoffset]
    exact hwindow

theorem exists_shown (hs : s.WellFormed) (hsize : (s.rows.length : Int) ≤ maxInt64) (hf : f.Fits)
    (hfield : order.column? = some field) {rows : Int} (hrows : 1 ≤ rows)
    (hmax : rows ≤ maxInt64) :
    ∃ l : List StoredProduct, l.Nodup ∧ (∀ p, p ∈ l ↔ Shows ⟨.ready s, n, k⟩ f order rows p) ∧
      (count f ⟨.ready s, n, k⟩).result = .ok l.length := by
  obtain ⟨l, -, hlists⟩ := exists_lists hs f order field
  refine ⟨l, hlists.nodup, fun p => ?_, ?_⟩
  · rw [shows_iff hs hsize hf hfield hrows hmax, hlists.mem_iff]
  · rw [count_of_fits hf.filterFault?_eq_none (hf.patternFault_eq_false s),
      ← hlists.rows.length_eq, List.length_map]

/-- The pages of a list hold the stored products that its filter admits, the count is the number of
them, and two filters on different fields select what both of them select. -/
theorem filters_select (src : Sources) (calls : List Call) {s : Store}
    (htable : ((core src).after calls {}).table = .ready s)
    (hsize : (s.rows.length : Int) ≤ maxInt64) {f : Filter} (hf : f.Fits) {order : OrderBy}
    {field : SortField} (hfield : order.column? = some field) {rows : Int} (hrows : 1 ≤ rows)
    (hmax : rows ≤ maxInt64) :
    let c := (core src).after calls {}
    (∀ p, c.Shows f order rows p → p.row ∈ s.rows) ∧
      ((∀ term, f.name = some term → Like.IsPlain term) →
        ∀ p : StoredProduct, p.row ∈ s.rows → Like.IsPlain p.name →
          (c.Shows f order rows p ↔ f.Admits p)) ∧
      (∃ l : List StoredProduct, l.Nodup ∧ (∀ p, p ∈ l ↔ c.Shows f order rows p) ∧
        (count f c).result = .ok l.length) ∧
      ∀ g : Filter, g.Fits → f.Disjoint g → ∀ p,
        (c.Shows (f.and g) order rows p ↔ c.Shows f order rows p ∧ c.Shows g order rows p) := by
  obtain ⟨s', n, k, hc, hs⟩ := (wellFormed_after src calls).exists_ready
  rw [hc] at htable ⊢
  obtain rfl : s' = s := Table.ready.inj htable
  have hshows {f : Filter} (hf : f.Fits) (p : StoredProduct) :
      Shows ⟨.ready s', n, k⟩ f order rows p ↔ p.row ∈ s'.rows ∧ Row.satisfies f p.row = true :=
    shows_iff hs hsize hf hfield hrows hmax
  refine ⟨fun p hp => ((hshows hf p).1 hp).1, fun hplain p hp hname => ?_,
    exists_shown hs hsize hf hfield hrows hmax, fun g hg hdisjoint p => ?_⟩
  · rw [hshows hf, Row.satisfies_row_iff hplain hname]
    exact and_iff_right hp
  · rw [hshows hf, hshows hg, hshows (hf.and hg), Row.satisfies_and hdisjoint, Bool.and_eq_true]
    tauto

/-- What the table holds of a fruit that was created as one of the first. -/
def storedFruit (n : Nat) (name : String) : StoredProduct :=
  ⟨Sources.counting.ids n, name, .ofInt 1, 1, ⟨7⟩, Sources.counting.clock n,
    Sources.counting.clock n⟩

theorem plums_selected :
    let fruits := ["apple", "plum", "pear"].map fruit
    let c := (core .counting).after (fruits.map .create) {}
    let f : Filter := { name := some "PL" }
    let g : Filter := { id := some (Sources.counting.ids 1) }
    (∃ s, c.table = .ready s ∧ (s.rows.length : Int) ≤ maxInt64) ∧
      (f.Fits ∧ g.Fits ∧ f.Disjoint g) ∧ defaultOrder.column? = some .id ∧
      c.Shows f defaultOrder 1 (storedFruit 0 "apple") ∧
      c.Shows f defaultOrder 1 (storedFruit 1 "plum") ∧
      ¬ c.Shows f defaultOrder 1 (storedFruit 2 "pear") ∧
      c.Shows (f.and g) defaultOrder 1 (storedFruit 1 "plum") ∧
      ¬ c.Shows (f.and g) defaultOrder 1 (storedFruit 0 "apple") := by
  intro fruits c f g
  have hstored : c.table = .ready
      ⟨[storedFruit 0 "apple", storedFruit 1 "plum", storedFruit 2 "pear"].map
        StoredProduct.row⟩ := by decide
  have hf : f.Fits := Filter.fits_name (by decide)
  have hg : g.Fits := Filter.fits_id _
  have hdisjoint : f.Disjoint g := ⟨.inl rfl, .inr rfl, .inl rfl, .inl rfl, .inl rfl⟩
  have hfield : defaultOrder.column? = some .id := by decide
  have hrows : (1 : Int) ≤ 1 ∧ 1 ≤ maxInt64 := by decide
  obtain ⟨-, hname, -, hand⟩ :=
    filters_select .counting _ hstored (by decide) hf hfield hrows.1 hrows.2
  obtain ⟨-, hid, -, -⟩ :=
    filters_select .counting _ hstored (by decide) hg hfield hrows.1 hrows.2
  have hplain : ∀ term, f.name = some term → Like.IsPlain term := by
    rintro term ⟨⟩
    decide
  have happle := (hname hplain (storedFruit 0 "apple") (by simp) (by decide)).trans
    Filter.admits_name_iff
  have hplum := (hname hplain (storedFruit 1 "plum") (by simp) (by decide)).trans
    Filter.admits_name_iff
  have hpear := (hname hplain (storedFruit 2 "pear") (by simp) (by decide)).trans
    Filter.admits_name_iff
  have happle' := (hid (by rintro _ ⟨⟩) (storedFruit 0 "apple") (by simp) (by decide)).trans
    Filter.admits_id_iff
  have hplum' := (hid (by rintro _ ⟨⟩) (storedFruit 1 "plum") (by simp) (by decide)).trans
    Filter.admits_id_iff
  refine ⟨⟨_, hstored, by decide⟩, ⟨hf, hg, hdisjoint⟩, hfield, happle.2 (by decide),
    hplum.2 (by decide), mt hpear.1 (by decide), ?_, ?_⟩
  · rw [hand g hg hdisjoint]
    exact ⟨hplum.2 (by decide), hplum'.2 rfl⟩
  · rw [hand g hg hdisjoint]
    exact fun h => absurd (happle'.1 h.2) (by decide)

/-- Where a filter selects other products than those that it admits. An order on no column, a page
of more rows than 64 bits can count, and an integer beyond them are refused. A name ends at its
first U+0000, and U+FFFE is read as U+FFFD. -/
theorem selected_otherwise :
    let dear := Real64.ofInt (maxInt64 + 1)
    let new := [fruit "a\x00x", fruit "\uFFFE", { fruit "gold" with cost := dear }]
    let c := (core .counting).after (new.map .create) {}
    let cut := storedFruit 0 "a\x00x"
    let odd := storedFruit 1 "\uFFFE"
    let gold := { storedFruit 2 "gold" with cost := dear }
    let whole : Amount := .whole (maxInt64 + 1)
    c.table = .ready ⟨[cut, odd, gold].map StoredProduct.row⟩ ∧
      (Filter.Admits {} gold ∧ (∀ order : OrderBy, order.field = points "price" →
        ¬ c.Shows {} order 1 gold) ∧ ¬ c.Shows {} defaultOrder (maxInt64 + 1) gold) ∧
      (Filter.Admits { cost := some whole } gold ∧
        ¬ c.Shows { cost := some whole } defaultOrder 1 gold ∧
        ∀ n, (count { cost := some whole } c).result ≠ .ok n) ∧
      (∀ n, (count { name := some [0xD800] } c).result ≠ .ok n) ∧
      (Filter.Admits { name := some "x" } cut ∧ ¬ c.Shows { name := some "x" } defaultOrder 1 cut) ∧
      ¬ Filter.Admits { name := some "\uFFFD" } odd ∧
        c.Shows { name := some "\uFFFD" } defaultOrder 1 odd := by
  intro dear new c cut odd gold whole
  have hc : c = ⟨.ready ⟨[cut, odd, gold].map StoredProduct.row⟩, 3, 3⟩ := by decide +kernel
  have hs : Store.WellFormed ⟨[cut, odd, gold].map StoredProduct.row⟩ := by
    have hafter : c.WellFormed := wellFormed_after .counting _
    rwa [hc] at hafter
  have hfield : defaultOrder.column? = some .id := by decide
  have hshows {f : Filter} (hf : f.Fits) {p : StoredProduct} :
      Shows ⟨.ready ⟨[cut, odd, gold].map StoredProduct.row⟩, 3, 3⟩ f defaultOrder 1 p ↔
        p.row ∈ [cut, odd, gold].map StoredProduct.row ∧ Row.satisfies f p.row = true :=
    shows_iff hs (by decide) hf hfield (by decide) (by decide)
  have hlarge : Store.filterFault? { cost := some whole } = some .integerTooLarge := by decide
  have hsurrogate : Store.filterFault? { name := some [0xD800] } =
      some (.notEncodable ⟨0xD800, 0, 1⟩) := by decide
  rw [hc]
  refine ⟨rfl, ⟨Filter.admits_all gold, fun order horder => ?_, ?_⟩, ⟨?_, ?_, ?_⟩, ?_,
    ⟨?_, ?_⟩, ?_, ?_⟩
  · have hnone : order.column? = none := by
      rw [OrderBy.column?, horder]
      decide
    exact not_shows_of_error fun page _ => query_of_unknownField hnone page 1 _
  · exact not_shows_of_error fun page _ =>
      query_of_not_fitsInt64 Filter.fits_all hfield (Or.inr (by decide))
  · exact Filter.admits_cost_iff.2 (Amount.equals_iff.1 (by decide +kernel))
  · exact not_shows_of_error fun page _ => query_of_filterFault hlarge hfield page 1
  · rw [count_of_filterFault hlarge]
    rintro _ ⟨⟩
  · rw [count_of_filterFault hsurrogate]
    rintro _ ⟨⟩
  · rw [Filter.admits_name_iff]
    decide
  · rw [hshows (Filter.fits_name (by decide))]
    decide
  · rw [Filter.admits_name_iff]
    decide
  · rw [hshows (Filter.fits_name (by decide))]
    decide

end Catalogue

end Stockroom
