import Mathlib.Logic.Equiv.Basic
import Stockroom.Proofs.Catalogue.Page

/-!
# Ties in a list

A list is in the order of one column, and nothing else decides between rows with one value in it. So
the database may put them in any order, and in another one for each page. The list is determined,
and its pages make up what was asked for, exactly if no two rows of it are tied.
-/

namespace Stockroom

open Number Text

namespace Row

/-! ## What a database may answer -/

/-- Some rows in the order of a column. Rows that are tied stand in any order. -/
structure Arranges (field : SortField) (reverse : Bool) (rows l : List Row) : Prop where
  perm : l.Perm rows
  ordered : l.Pairwise fun a b => Row.ordered field reverse a b = true

def Determined (field : SortField) (reverse : Bool) (rows : List Row) : Prop :=
  ∀ l l', Arranges field reverse rows l → Arranges field reverse rows l' → l = l'

def page (l : List Row) (size k : Nat) : List Row := (l.drop (k * size)).take size

/-- Enough pages hold every row once, even if each comes from an arrangement of its own. -/
def PagesHold (field : SortField) (reverse : Bool) (rows : List Row) : Prop :=
  ∀ pick : Nat → List Row, (∀ k, Arranges field reverse rows (pick k)) →
    ∀ size n, rows.length ≤ n * size →
      ((List.range n).map fun k => page (pick k) size k).flatten.Perm rows

def Untied (field : SortField) (rows : List Row) : Prop :=
  ∀ a ∈ rows, ∀ b ∈ rows, SameIn field a b → a = b

variable {field : SortField} {reverse : Bool} {rows l : List Row} {a b : Row}

theorem arranges_sorted (f : Filter) (field : SortField) (reverse : Bool) (rows : List Row) :
    Arranges field reverse rows (Store.sorted f field reverse rows) :=
  ⟨Store.sorted_perm f field reverse rows, Store.pairwise_sorted f field reverse rows⟩

/-! ## Swapping tied rows -/

theorem Tied.refl (field : SortField) (reverse : Bool) (a : Row) : Tied field reverse a a := by
  have := ordered_total field reverse a a
  rw [Bool.or_self] at this
  exact ⟨this, this⟩

theorem Tied.swap (h : Tied field reverse a b) (x : Row) :
    Tied field reverse (Equiv.swap a b x) x := by
  rw [Equiv.swap_apply_def]
  split_ifs with hxa hxb
  · exact hxa ▸ And.symm h
  · exact hxb ▸ h
  · exact Tied.refl field reverse x

theorem Arranges.map_swap (hl : Arranges field reverse rows l) (hrows : rows.Nodup) (ha : a ∈ rows)
    (hb : b ∈ rows) (htied : Tied field reverse a b) :
    Arranges field reverse rows (l.map (Equiv.swap a b)) := by
  have hnodup : (l.map (Equiv.swap a b)).Nodup :=
    (hl.perm.nodup_iff.2 hrows).map (Equiv.swap a b).injective
  refine ⟨(List.perm_ext_iff_of_nodup hnodup hrows).2 fun x => ?_, ?_⟩
  · have hmem : Equiv.swap a b x ∈ rows ↔ x ∈ rows := by
      rw [Equiv.swap_apply_def]
      split_ifs with hxa hxb
      · simp [hxa, ha, hb]
      · simp [hxb, ha, hb]
      · exact Iff.rfl
    rw [← hmem, ← hl.perm.mem_iff, List.mem_map]
    constructor
    · rintro ⟨y, hy, rfl⟩
      rwa [Equiv.swap_apply_self]
    · exact fun hx => ⟨_, hx, Equiv.swap_apply_self a b x⟩
  · rw [List.pairwise_map]
    refine hl.ordered.imp fun {x y} hxy => ?_
    have hx := (htied.swap x).1
    have hy := (htied.swap y).2
    exact ordered_trans field reverse _ _ _ hx (ordered_trans field reverse _ _ _ hxy hy)

/-! ## Lists without ties -/

section

variable (hrows : rows.Nodup) (hcost : ∀ r ∈ rows, r.cost.stored = r.cost)
include hcost

theorem determined_of_untied (h : Untied field rows) : Determined field reverse rows := by
  intro l l' hl hl'
  refine List.Perm.eq_of_pairwise (fun a b ha hb hab hba => ?_) hl.ordered hl'.ordered
    (hl.perm.trans hl'.perm.symm)
  have ha' := hl.perm.mem_iff.1 ha
  have hb' := hl'.perm.mem_iff.1 hb
  exact h a ha' b hb' ((tied_iff_sameIn (hcost a ha') (hcost b hb')).1 ⟨hab, hba⟩)

theorem pagesHold_of_untied (h : Untied field rows) : PagesHold field reverse rows := by
  intro pick hpick size n hn
  have hl := arranges_sorted {} field reverse rows
  have hpick' : pick = fun _ => Store.sorted {} field reverse rows := by
    funext k
    exact determined_of_untied hcost h _ _ (hpick k) hl
  simp only [hpick', page]
  rw [flatten_pages, List.take_of_length_le (hl.perm.length_eq.trans_le hn)]
  exact hl.perm

include hrows

theorem determined_iff : Determined field reverse rows ↔ Untied field rows := by
  refine ⟨fun h a ha b hb hsame => ?_, determined_of_untied hcost⟩
  have htied : Tied field reverse a b := (tied_iff_sameIn (hcost a ha) (hcost b hb)).2 hsame
  have hl := arranges_sorted {} field reverse rows
  have hmap := h _ _ (hl.map_swap hrows ha hb htied) hl
  have hfix := List.map_eq_map_iff.1 (hmap.trans (List.map_id _).symm) a (hl.perm.mem_iff.2 ha)
  rw [Equiv.swap_apply_left] at hfix
  exact hfix.symm

/-- With one row on a page, the page of a row may show the other one of a tie, and no page the row
itself. -/
theorem pagesHold_iff : PagesHold field reverse rows ↔ Untied field rows := by
  refine ⟨fun h a ha b hb hsame => ?_, pagesHold_of_untied hcost⟩
  have htied : Tied field reverse a b := (tied_iff_sameIn (hcost a ha) (hcost b hb)).2 hsame
  have hl := arranges_sorted {} field reverse rows
  have hswap := hl.map_swap hrows ha hb htied
  generalize Store.sorted {} field reverse rows = l at hl hswap
  obtain ⟨j, hj, hjb⟩ := List.getElem_of_mem (hl.perm.mem_iff.2 hb)
  have hnodup : l.Nodup := hl.perm.nodup_iff.2 hrows
  -- The page of `b` is cut out of the list with `a` in its place, every other page out of the list.
  have hpages := h (fun k => if k = j then l.map (Equiv.swap a b) else l)
    (fun k => by split_ifs; exacts [hswap, hl]) 1 rows.length (Nat.mul_one _).ge
  obtain ⟨shown, hshown, hmem⟩ := List.mem_flatten.1 (hpages.mem_iff.2 hb)
  obtain ⟨k, -, rfl⟩ := List.mem_map.1 hshown
  rw [page, Nat.mul_one] at hmem
  split_ifs at hmem with hk
  · rw [hk, ← List.map_drop, List.drop_eq_getElem_cons hj, hjb] at hmem
    have hba : b = a := by simpa using hmem
    exact hba.symm
  · have hk' : k < l.length := by
      by_contra hnot
      rw [List.drop_eq_nil_of_le (by omega)] at hmem
      cases hmem
    rw [List.drop_eq_getElem_cons hk', List.take_succ_cons, List.take_zero,
      List.mem_singleton] at hmem
    exact absurd (hnodup.getElem_inj_iff.1 (hmem.symm.trans hjb.symm)) hk

end

end Row

namespace Catalogue

/-! ## Lists of the catalogue -/

/-- Whatever a database does with ties, the list of a filter is determined, and its pages hold each
row of it once, exactly if no two of its rows have one value in the column of the order. Of rows in
the order of their ids no two have. -/
theorem list_determined_iff (src : Sources) (calls : List Call) (field : SortField)
    (reverse : Bool) :
    ∃ s, ((core src).after calls {}).table = .ready s ∧
      (∀ a ∈ s.rows, ∀ b ∈ s.rows, Row.Tied field reverse a b ↔ Row.SameIn field a b) ∧
      ∀ f : Filter, let rows := s.rows.filter (Row.satisfies f)
        (Row.Determined field reverse rows ↔ Row.Untied field rows) ∧
        (Row.PagesHold field reverse rows ↔ Row.Untied field rows) ∧
        (field = .id → Row.Untied field rows) := by
  obtain ⟨s, n, k, hc, hs⟩ := (wellFormed_after src calls).exists_ready
  have hcost : ∀ r ∈ s.rows, r.cost.stored = r.cost := fun r hr => (hs.rows r hr).cost_stored
  refine ⟨s, congrArg Catalogue.table hc, fun a ha b hb => ?_, fun f => ?_⟩
  · exact Row.tied_iff_sameIn (hcost a ha) (hcost b hb)
  · have hnodup := (List.Nodup.of_map Row.id hs.keyed).filter (Row.satisfies f)
    have hcost' : ∀ r ∈ s.rows.filter (Row.satisfies f), r.cost.stored = r.cost :=
      fun r hr => hcost r (List.mem_of_mem_filter hr)
    refine ⟨Row.determined_iff hnodup hcost', Row.pagesHold_iff hnodup hcost', ?_⟩
    rintro rfl a ha b hb hsame
    exact List.inj_on_of_nodup_map hs.keyed (List.mem_of_mem_filter ha)
      (List.mem_of_mem_filter hb) hsame

theorem query_of_pairwise {s : Store} {n k : Nat} {q : Listing} (hq : q.Fits)
    (hpattern : ¬ s.patternFault q.filter = true) {field : SortField}
    (hfield : q.order.column? = some field) (hascending : q.order.isReverse = false)
    {l : List StoredProduct} (hl : l.map StoredProduct.row = s.rows.filter (Row.satisfies q.filter))
    (hordered : (l.map StoredProduct.row).Pairwise fun a b =>
      Row.ordered field false a b = true) :
    (query q.filter q.order q.page q.rows ⟨.ready s, n, k⟩).result =
      .ok (Store.slice ((q.page - 1) * q.rows) q.rows l) := by
  refine query_of_fits hq hpattern hfield ?_
  rw [← hl, hascending, Store.sorted_of_pairwise hordered]

/-- Two ids by turns, and a clock that stands still. -/
def twins : Sources := ⟨fun n => ⟨BitVec.ofNat 128 (n % 2)⟩, fun _ => ⟨2024, 1, 1, 0, 0, 0, 0⟩⟩

def twin (n : Nat) : StoredProduct :=
  ⟨twins.ids n, "apple", .ofInt 1, 1, ⟨7⟩, twins.clock n, twins.clock n⟩

/-- Two apples are tied in the order of their names. Once the first has been removed and created
again they have changed places, though the table has the rows that it had. -/
theorem twins_change_places :
    let made : Call := .create (twin 0).data
    let c := (core twins).after [made, made] {}
    let c' := (core twins).after [made, made, .delete (twin 0), made] {}
    let order : OrderBy := ⟨SortField.name.text, ascending⟩
    c.table = .ready ⟨[(twin 0).row, (twin 1).row]⟩ ∧
      c'.table = .ready ⟨[(twin 1).row, (twin 0).row]⟩ ∧
      (twin 0).row ≠ (twin 1).row ∧ Row.Tied .name false (twin 0).row (twin 1).row ∧
      (query {} order 1 10 c).result = .ok [twin 0, twin 1] ∧
      (query {} order 1 10 c').result = .ok [twin 1, twin 0] := by
  intro made c c' order
  have hc : c = ⟨.ready ⟨[(twin 0).row, (twin 1).row]⟩, 2, 2⟩ := by decide
  have hc' : c' = ⟨.ready ⟨[(twin 1).row, (twin 0).row]⟩, 3, 3⟩ := by decide
  have hfits : Listing.Fits ⟨1, 10, {}, order⟩ :=
    ⟨by decide, by decide, by decide, by decide, .name, by decide⟩
  have hfield : order.column? = some .name := by decide
  refine ⟨congrArg Catalogue.table hc, congrArg Catalogue.table hc', by decide,
    ⟨by decide, by decide⟩, ?_, ?_⟩
  · rw [hc]
    exact query_of_pairwise hfits (by decide) hfield (by decide) (l := [twin 0, twin 1]) (by decide)
      (by decide)
  · rw [hc']
    exact query_of_pairwise hfits (by decide) hfield (by decide) (l := [twin 1, twin 0]) (by decide)
      (by decide)

end Catalogue

end Stockroom
