import Stockroom.Proofs.Product.View

/-!
# Pages are read back

A client that takes integers of any length is given back every product of a page, in its place, and
the three numbers of the page. A product by itself is read in the same way. So two products that
differ in what a client reads have different texts.
-/

namespace Stockroom

open Text

/-- The value that a text is read as, integers of any length included. -/
def Json.decode? (depth : Nat) (s : String) : Option Json :=
  (readWithin none depth (points s)).toOption

theorem Json.decode?_write {depth : Nat} {j : Json} (hj : Readable none depth j) :
    decode? depth j.write = some j := by
  rw [decode?, readWithin_write hj]
  rfl

/-- A page as its text in a body says it is. -/
structure PageReading where
  items : List ProductReading
  total : Int
  page : Int
  rows : Int
  deriving DecidableEq

namespace PageReading

def items? : Json → Option (List ProductReading)
  | .array items => items.mapM ProductReading.ofJson?
  | _ => none

def ofMembers? (ms : List (Points × Json)) : Option PageReading := do
  let items ← (Json.get? ms "items").bind items?
  let total ← (Json.get? ms "total").bind ProductReading.integer?
  let page ← (Json.get? ms "page").bind ProductReading.integer?
  let rows ← (Json.get? ms "rowsPerPage").bind ProductReading.integer?
  some ⟨items, total, page, rows⟩

def ofJson? : Json → Option PageReading
  | .object ms => ofMembers? ms
  | _ => none

end PageReading

/-! ## Products -/

namespace ProductView

/-- A view whose name is a string and whose times are those of a calendar, with no offset or one of
whole minutes. -/
structure IsShowable (v : ProductView) : Prop where
  name : IsString v.name
  created : v.created.Fits
  updated : v.updated.Fits

theorem IsShowable.text_eq {v : ProductView} (hv : v.IsShowable) : v.text = .ok v.json.write := by
  simp [text, textOfViews, surrogateRun?_eq_none hv.name.isClean]

theorem IsShowable.readable {v : ProductView} (hv : v.IsShowable) (depth : Nat) :
    Json.Readable none (depth + 1) v.wire :=
  readable_wire hv.name (Json.isShort_none v.quantity)

theorem IsShowable.exists_text {v : ProductView} (hv : v.IsShowable) (depth : Nat) :
    ∃ text, v.text = .ok text ∧
      (Json.decode? (depth + 1) text).bind ProductReading.ofJson? = some v.reading := by
  refine ⟨_, hv.text_eq, ?_⟩
  rw [← write_wire, Json.decode?_write (hv.readable depth)]
  exact ProductReading.ofJson?_wire hv.created hv.updated

theorem IsShowable.reading_eq {v w : ProductView} (hv : v.IsShowable) (hw : w.IsShowable)
    (h : v.text = w.text) : v.reading = w.reading := by
  obtain ⟨text, htext, hread⟩ := hv.exists_text 0
  obtain ⟨other, hother, hreadOther⟩ := hw.exists_text 0
  rw [htext, hother] at h
  cases h
  exact Option.some.inj (hread.symm.trans hreadOther)

end ProductView

/-! ## Pages -/

namespace PageView

/-- The page as a body has it. -/
def wire (v : PageView) : Json :=
  .fields
    [("items", .array (v.items.map ProductView.wire)), ("total", .integer v.total),
      ("page", .integer v.page), ("rowsPerPage", .integer v.rows)]

/-- What a client is given back of a page. -/
def reading (v : PageView) : PageReading :=
  ⟨v.items.map ProductView.reading, v.total, v.page, v.rows⟩

theorem write_wire (v : PageView) : v.wire.write = v.json.write := by
  have hitems : Json.writeItems (v.items.map ProductView.wire) =
      Json.writeItems (v.items.map ProductView.json) := by
    rw [Json.writeItems_eq_map, Json.writeItems_eq_map, List.map_map, List.map_map]
    exact List.map_congr_left fun item _ => item.writePoints_wire
  have hpoints : v.wire.writePoints = v.json.writePoints := by
    simp only [wire, json, Json.fields, List.map_cons, List.map_nil, Json.writePoints,
      Json.writeMembers, hitems]
  rw [Json.write, Json.write, hpoints]

section

variable {v : PageView} (hv : ∀ item ∈ v.items, item.IsShowable)
include hv

theorem text_eq : v.text = .ok v.json.write := by
  have hnone : v.items.findSome? (fun item => surrogateRun? item.name) = none :=
    List.findSome?_eq_none_iff.2 fun item hitem =>
      surrogateRun?_eq_none (hv item hitem).name.isClean
  rw [text, textOfViews, hnone]

/-- The products stand in a list in an object, so they are three deep. -/
theorem readable_wire (depth : Nat) : Json.Readable none (depth + 3) v.wire := by
  have hitems : Json.Readable none (depth + 2) (.array (v.items.map ProductView.wire)) :=
    Json.readableItems_iff.2
      (List.forall_mem_map.2 fun item hitem => (hv item hitem).readable depth)
  have hkeys : ["items", "total", "page", "rowsPerPage"].Nodup := by decide
  refine Json.readable_fields hkeys ?_
  simp only [List.forall_mem_cons]
  exact ⟨hitems, Json.isShort_none _, Json.isShort_none _, Json.isShort_none _,
    fun _ hm => absurd hm List.not_mem_nil⟩

end

end PageView

namespace PageReading

theorem items?_wire {items : List ProductView} (hitems : ∀ item ∈ items, item.IsShowable) :
    items? (.array (items.map ProductView.wire)) = some (items.map ProductView.reading) := by
  show (items.map ProductView.wire).mapM ProductReading.ofJson? = _
  rw [List.mapM_map]
  exact Number.mapM_eq_some_map fun item hitem =>
    ProductReading.ofJson?_wire (hitems item hitem).created (hitems item hitem).updated

theorem ofJson?_wire {v : PageView} (hv : ∀ item ∈ v.items, item.IsShowable) :
    ofJson? v.wire = some v.reading := by
  simp only [PageView.wire, Json.fields, ofJson?, ofMembers?, Json.get?_map_points]
  simp [List.lookup_cons, items?_wire hv, ProductReading.integer?, PageView.reading]

theorem exists_text {v : PageView} (hv : ∀ item ∈ v.items, item.IsShowable) (depth : Nat) :
    ∃ text, v.text = .ok text ∧
      (Json.decode? (depth + 3) text).bind ofJson? = some v.reading := by
  refine ⟨_, PageView.text_eq hv, ?_⟩
  rw [← PageView.write_wire, Json.decode?_write (PageView.readable_wire hv depth)]
  exact ofJson?_wire hv

end PageReading

/-! ## Products and pages of them -/

namespace Product

/-- A product whose name is a string and whose dates are those of a calendar, with no offset or one
of whole minutes. -/
structure IsShowable (p : Product) : Prop where
  name : IsString p.name
  created : p.created.Fits
  updated : p.updated.Fits

theorem IsShowable.view {p : Product} (hp : p.IsShowable) : p.view.IsShowable :=
  ⟨hp.name, hp.created, hp.updated⟩

/-- A client reads the fields of a product back from its text, quantities of any size included, and
those of every product of a page from the text of the page. All that it does not read is a cost that
is not finite. So two products that differ in what is read have different texts. -/
theorem texts_read_back (depth : Nat) :
    (∀ p : Product, p.IsShowable → ∃ text, p.view.text = .ok text ∧
      (Json.decode? (depth + 1) text).bind ProductReading.ofJson? =
        some ⟨p.id, p.name, p.cost.finite?, p.quantity, p.userId, p.created, p.updated⟩) ∧
    (∀ (ps : List Product) (total page rows : Int), (∀ p ∈ ps, p.IsShowable) →
      ∃ text, PageView.text ⟨ps.map Product.view, total, page, rows⟩ = .ok text ∧
        (Json.decode? (depth + 3) text).bind PageReading.ofJson? =
          some ⟨ps.map fun p =>
            ⟨p.id, p.name, p.cost.finite?, p.quantity, p.userId, p.created, p.updated⟩,
            total, page, rows⟩) ∧
    ∀ p q : Product, p.IsShowable → q.IsShowable →
      (p.id ≠ q.id ∨ p.name ≠ q.name ∨ p.cost.finite? ≠ q.cost.finite? ∨
        p.quantity ≠ q.quantity ∨ p.userId ≠ q.userId ∨ p.created ≠ q.created ∨
        p.updated ≠ q.updated) →
      p.view.text ≠ q.view.text := by
  refine ⟨fun p hp => hp.view.exists_text depth, fun ps total page rows hps => ?_,
    fun p q hp hq hdiffer htext => ?_⟩
  · have hitems : ∀ item ∈ ps.map Product.view, item.IsShowable :=
      List.forall_mem_map.2 fun p hp => (hps p hp).view
    obtain ⟨text, htext, hread⟩ :=
      PageReading.exists_text (v := ⟨ps.map Product.view, total, page, rows⟩) hitems depth
    rw [PageView.reading, List.map_map] at hread
    exact ⟨text, htext, hread⟩
  · have hreading := hp.view.reading_eq hq.view htext
    simp only [ProductView.reading, Product.view, ProductReading.mk.injEq] at hreading
    obtain ⟨hid, hname, hcost, hquantity, huser, hcreated, hupdated⟩ := hreading
    simp [hid, hname, hcost, hquantity, huser, hcreated, hupdated] at hdiffer

/-- A name with all that a text escapes, more of it than any column holds, and two offsets. -/
def manyPearls : Product where
  id := ⟨1⟩
  name := "\"pearl\",\\\n\x01é"
  cost := .nan
  quantity := 10 ^ 5000
  userId := ⟨7⟩
  created := ⟨⟨2024, 2, 29, 23, 59, 59, 7⟩, some (-12600)⟩
  updated := ⟨⟨2024, 5, 1, 0, 0, 0, 0⟩, some 0⟩

theorem isShowable_manyPearls : manyPearls.IsShowable where
  name := isString_points "\"pearl\",\\\n\x01é".toList
  created := ⟨by constructor <;> decide, by rintro _ ⟨⟩; unfold Moment.WholeMinutes; decide⟩
  updated := ⟨by constructor <;> decide, by rintro _ ⟨⟩; unfold Moment.WholeMinutes; decide⟩

/-- The same pearls without an offset of their creation. -/
def naivePearls : Product := { manyPearls with created := ⟨manyPearls.created.wall, none⟩ }

theorem isShowable_naivePearls : naivePearls.IsShowable where
  name := isShowable_manyPearls.name
  created := ⟨isShowable_manyPearls.created.wall, by rintro _ ⟨⟩⟩
  updated := isShowable_manyPearls.updated

theorem many_pearls_read_back :
    manyPearls.IsShowable ∧ naivePearls.IsShowable ∧
      (∃ text, manyPearls.view.text = .ok text ∧
        (Json.decode? 1 text).bind ProductReading.ofJson? =
          some ⟨⟨1⟩, "\"pearl\",\\\n\x01é", none, 10 ^ 5000, ⟨7⟩,
            ⟨⟨2024, 2, 29, 23, 59, 59, 7⟩, some (-12600)⟩, ⟨⟨2024, 5, 1, 0, 0, 0, 0⟩, some 0⟩⟩) ∧
      (∃ text, PageView.text ⟨[manyPearls, naivePearls].map Product.view, -1, 0, 10 ^ 5000⟩ =
          .ok text ∧
        (Json.decode? 3 text).bind PageReading.ofJson? =
          some ⟨[⟨⟨1⟩, "\"pearl\",\\\n\x01é", none, 10 ^ 5000, ⟨7⟩,
              ⟨⟨2024, 2, 29, 23, 59, 59, 7⟩, some (-12600)⟩, ⟨⟨2024, 5, 1, 0, 0, 0, 0⟩, some 0⟩⟩,
            ⟨⟨1⟩, "\"pearl\",\\\n\x01é", none, 10 ^ 5000, ⟨7⟩,
              ⟨⟨2024, 2, 29, 23, 59, 59, 7⟩, none⟩, ⟨⟨2024, 5, 1, 0, 0, 0, 0⟩, some 0⟩⟩],
            -1, 0, 10 ^ 5000⟩) ∧
      manyPearls.view.text ≠ naivePearls.view.text := by
  obtain ⟨hproduct, hpage, hdiffer⟩ := texts_read_back 0
  have hitems : ∀ p ∈ [manyPearls, naivePearls], p.IsShowable :=
    List.forall_mem_cons.2 ⟨isShowable_manyPearls,
      List.forall_mem_singleton.2 isShowable_naivePearls⟩
  have hoffset : manyPearls.created ≠ naivePearls.created := by decide
  exact ⟨isShowable_manyPearls, isShowable_naivePearls, hproduct _ isShowable_manyPearls,
    hpage _ (-1) 0 (10 ^ 5000) hitems,
    hdiffer _ _ isShowable_manyPearls isShowable_naivePearls (by simp [hoffset])⟩

end Product

end Stockroom
