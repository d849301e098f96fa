import Mathlib.Data.Char
import Stockroom.Proofs.Store.Order
import Stockroom.Proofs.Uuid

/-!
# The order of identifiers

The canonical texts of identifiers are in the order of the numbers that the identifiers are. The
digits stand with the first one in front and there are always as many of them, a larger digit has a
larger character, and the hyphens stand at the same places of every text.
-/

namespace Stockroom

open Text

/-! ## Digits -/

namespace Text

theorem digitChar_lt_iff {d e : Nat} (hd : d < 16) (he : e < 16) :
    Nat.digitChar d < Nat.digitChar e ↔ d < e := by
  have hall : ∀ d < 16, ∀ e < 16, Nat.digitChar d < Nat.digitChar e ↔ d < e := by decide
  exact hall d hd e he

theorem hexDigits_lexLt_iff {width m n : Nat} (hm : m < 16 ^ width) (hn : n < 16 ^ width) :
    LexLt (hexDigits width m) (hexDigits width n) ↔ m < n := by
  induction width generalizing m n with
  | zero =>
    simp only [hexDigits, not_lexLt_nil, false_iff]
    omega
  | succ width ih =>
    -- All digits but the last are those of the number without its last digit.
    have hm' : m / 16 < 16 ^ width := Nat.div_lt_of_lt_mul (Nat.pow_succ' ▸ hm)
    have hn' : n / 16 < 16 ^ width := Nat.div_lt_of_lt_mul (Nat.pow_succ' ▸ hn)
    have hlast : LexLt [Nat.digitChar (m % 16)] [Nat.digitChar (n % 16)] ↔ m % 16 < n % 16 := by
      rw [lexLt_cons_iff, digitChar_lt_iff (Nat.mod_lt m (by decide)) (Nat.mod_lt n (by decide))]
      simp
    have hfront : hexDigits width (m / 16) = hexDigits width (n / 16) ↔ m / 16 = n / 16 := by
      refine ⟨fun h => ?_, congrArg _⟩
      have hirrefl : ¬ LexLt (hexDigits width (n / 16)) (hexDigits width (n / 16)) :=
        List.lex_irrefl Char.lt_irrefl _
      have hlt := ih hm' hn'
      have hgt := ih hn' hm'
      rw [h, iff_false_left hirrefl] at hlt hgt
      omega
    rw [hexDigits, hexDigits, lexLt_append_iff (by rw [hexDigits_length, hexDigits_length]),
      ih hm' hn', hlast, hfront]
    omega

end Text

namespace Uuid

/-! ## Texts of identifiers -/

/-- The hyphens tell no two texts apart. -/
theorem hyphenate_lexLt_iff {ds es : List Char} (h : ds.length = es.length) :
    LexLt (hyphenate ds) (hyphenate es) ↔ LexLt ds es := by
  conv => rhs; rw [← groups_append ds, ← groups_append es]
  simp (disch := simp [h]) only [hyphenate, List.append_assoc, List.cons_append, lexLt_append_iff,
    lexLt_cons_iff, lt_irrefl, false_or, true_and]

theorem points_text (u : Uuid) : points u.text = (hyphenate u.digits).map Char.toNat := by
  rw [text, points, String.toList_ofList]

theorem points_text_lexLt_iff {u v : Uuid} :
    LexLt (points u.text) (points v.text) ↔ u.value.toNat < v.value.toNat := by
  have hu : u.value.toNat < 16 ^ 32 := u.value.isLt
  have hv : v.value.toNat < 16 ^ 32 := v.value.isLt
  rw [points_text, points_text, lexLt_map_iff (fun _ _ => Char.toNat_inj.1) (fun _ _ => Iff.rfl),
    hyphenate_lexLt_iff (by rw [digits_length, digits_length]), digits, digits,
    hexDigits_lexLt_iff hu hv]

theorem text_le_iff {u v : Uuid} :
    Text.le u.text v.text = true ↔ u.value.toNat ≤ v.value.toNat := by
  rw [← Nat.not_lt, ← points_text_lexLt_iff, ← lePoints_eq_false_iff, Bool.not_eq_false]
  exact Iff.rfl

theorem utf8_text_lexLt_iff {u v : Uuid} :
    LexLt (utf8 u.text) (utf8 v.text) ↔ u.value.toNat < v.value.toNat := by
  have hle : Text.le v.text u.text = true ↔ ¬ LexLt (utf8 u.text) (utf8 v.text) :=
    le_iff_lexLe_utf8
  rw [← not_iff_not, ← hle, text_le_iff, Nat.not_lt]

end Uuid

end Stockroom
