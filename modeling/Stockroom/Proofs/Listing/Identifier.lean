import Stockroom.Proofs.Listing.Written
import Stockroom.Service

/-!
# Ids as parameters

The id of a product and that of a user are read from a parameter just as a path is read. A single
id, with or without a page, is all that a list request needs: the configuration has the rest.
-/

namespace Stockroom

open Number Text

theorem Service.pathId_eq_ok_iff {raw : Points} {u : Uuid} :
    pathId raw = .ok u ↔ Uuid.ofPoints? raw = some u := by
  unfold pathId
  cases Uuid.ofPoints? raw <;> simp

namespace Listing

variable {ps : Params} {name raw : Points} {config : ListConfig} {u : Uuid}

theorem readId_eq_ok_iff : readId raw = .ok u ↔ Uuid.ofPoints? raw = some u := by
  unfold readId
  cases Uuid.ofPoints? raw <;> simp

theorem ne_nil_of_ofPoints? (h : Uuid.ofPoints? raw = some u) : raw ≠ [] := by
  rintro rfl
  have hnil : Uuid.ofPoints? [] = none := by decide
  rw [hnil] at h
  cases h

/-! ## Filters -/

theorem param_readId (hvalue : value ps name = raw) (h : Uuid.ofPoints? raw = some u) :
    param ps name readId = .ok (some u) :=
  param_of_read (hvalue ▸ ne_nil_of_ofPoints? h) (hvalue ▸ readId_eq_ok_iff.2 h)

theorem filterOf_productId (h : Uuid.ofPoints? raw = some u) :
    filterOf [("product_id", raw)] = .ok { id := some u } := by
  have hknown : ∀ p ∈ [(points "product_id", raw)], p.1 ∈ filterNames ++ reservedNames := by
    rw [List.forall_mem_singleton]
    exact (by decide : points "product_id" ∈ filterNames ++ reservedNames)
  exact filterOf_of_params hknown (param_readId rfl h) rfl rfl rfl rfl

theorem filterOf_userId (h : Uuid.ofPoints? raw = some u) (page : Points) :
    filterOf [("user_id", raw)] = .ok { userId := some u } ∧
      filterOf [("user_id", raw), ("page", page)] = .ok { userId := some u } := by
  have hknown : ∀ p ∈ [(points "user_id", raw), (points "page", page)],
      p.1 ∈ filterNames ++ reservedNames := by
    rw [List.forall_mem_cons, List.forall_mem_singleton]
    exact ⟨(by decide : points "user_id" ∈ filterNames ++ reservedNames),
      (by decide : points "page" ∈ filterNames ++ reservedNames)⟩
  refine ⟨?_, ?_⟩
  · exact filterOf_of_params (fun p hp => hknown p (List.mem_singleton.1 hp ▸ List.mem_cons_self))
      rfl rfl rfl rfl (param_readId rfl h)
  · exact filterOf_of_params hknown rfl rfl rfl rfl (param_readId rfl h)

theorem filterOf_productId_iff :
    (∃ f, filterOf [("product_id", raw)] = .ok f ∧ f.id = some u) ↔
      Uuid.ofPoints? raw = some u := by
  constructor
  · rintro ⟨f, hf, hid⟩
    obtain ⟨hparam, -⟩ := filterOf_eq_ok hf
    rw [hid] at hparam
    exact readId_eq_ok_iff.1 (read_of_param hparam).2
  · exact fun h => ⟨_, filterOf_productId h, rfl⟩

theorem filterOf_userId_iff :
    (∃ f, filterOf [("user_id", raw)] = .ok f ∧ f.userId = some u) ↔
      Uuid.ofPoints? raw = some u := by
  constructor
  · rintro ⟨f, hf, huser⟩
    obtain ⟨-, -, -, -, hparam⟩ := filterOf_eq_ok hf
    rw [huser] at hparam
    exact readId_eq_ok_iff.1 (read_of_param hparam).2
  · exact fun h => ⟨_, (filterOf_userId h []).1, rfl⟩

/-! ## Requests -/

theorem ofParams_productId (h : Uuid.ofPoints? raw = some u)
    (hoffset : (config.page - 1) * config.rows ≤ maxInt64) :
    ofParams [("product_id", raw)] config =
      .ok ⟨config.page, config.rows, { id := some u }, config.order⟩ :=
  ofParams_of_parts rfl rfl hoffset (filterOf_productId h) rfl

theorem ofParams_userId (h : Uuid.ofPoints? raw = some u)
    (hoffset : (config.page - 1) * config.rows ≤ maxInt64) :
    ofParams [("user_id", raw)] config =
      .ok ⟨config.page, config.rows, { userId := some u }, config.order⟩ :=
  ofParams_of_parts rfl rfl hoffset (filterOf_userId h []).1 rfl

theorem ofParams_userId_page (h : Uuid.ofPoints? raw = some u) {page : Int} (hpage : 1 ≤ page)
    (hoffset : (page - 1) * config.rows ≤ maxInt64) (hmax : page ≤ maxInt64) :
    ofParams [("user_id", raw), ("page", decimal page)] config =
      .ok ⟨page, config.rows, { userId := some u }, config.order⟩ :=
  ofParams_of_parts (positiveInt_decimal rfl ⟨hpage, hmax⟩) rfl hoffset (filterOf_userId h _).2 rfl

end Listing

end Stockroom
