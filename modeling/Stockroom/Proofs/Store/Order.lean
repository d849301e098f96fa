import Mathlib.Algebra.Group.Nat.Defs
import Mathlib.Data.List.Lex
import Mathlib.Order.Monotone.Basic
import Stockroom.Proofs.Store

/-!
# The orders of the columns

What the rows of a list are in order of. Texts come in the order of their UTF-8 bytes, costs in that
of their numbers and dates in that of the calendar. Two rows are tied if each may come before the
other, and this is so exactly if they have one value in the column.
-/

namespace Stockroom

open Number Text

/-- Lists in the order of a dictionary, that is of their first difference. -/
def LexLt {α : Type} [LT α] (s t : List α) : Prop := List.Lex (· < ·) s t

def LexLe {α : Type} [LT α] (s t : List α) : Prop := ¬ LexLt t s

@[simp] theorem lexLt_cons_iff {α : Type} [LT α] {a b : α} {s t : List α} :
    LexLt (a :: s) (b :: t) ↔ a < b ∨ a = b ∧ LexLt s t := List.cons_lex_cons_iff

@[simp] theorem not_lexLt_nil {α : Type} [LT α] {s : List α} : ¬ LexLt s [] := List.not_lex_nil

theorem lexLt_append_iff {α : Type} [LT α] {s s' t t' : List α} (h : s.length = s'.length) :
    LexLt (s ++ t) (s' ++ t') ↔ LexLt s s' ∨ s = s' ∧ LexLt t t' := by
  induction s generalizing s' with
  | nil =>
    obtain rfl := List.eq_nil_of_length_eq_zero h.symm
    simp
  | cons a s ih =>
    cases s' with
    | nil => cases h
    | cons b s' =>
      rw [List.cons_append, List.cons_append, lexLt_cons_iff, lexLt_cons_iff,
        ih (Nat.succ.inj h), List.cons.injEq]
      tauto

theorem lexLt_map_iff {α β : Type} [LT α] [LT β] {f : α → β} (hf : f.Injective)
    (hlt : ∀ a b, f a < f b ↔ a < b) {s t : List α} : LexLt (s.map f) (t.map f) ↔ LexLt s t := by
  induction s generalizing t with
  | nil => cases t <;> simp [LexLt]
  | cons a s ih =>
    cases t with
    | nil => simp
    | cons b t =>
      rw [List.map_cons, List.map_cons, lexLt_cons_iff, lexLt_cons_iff, hlt, hf.eq_iff, ih]

/-! ## Texts -/

namespace Text

theorem toUInt8_cons_lexLt_iff {m n : Nat} (hm : m < 256) (hn : n < 256) {s t : Bytes} :
    LexLt (m.toUInt8 :: s) (n.toUInt8 :: t) ↔ m < n ∨ m = n ∧ LexLt s t := by
  rw [lexLt_cons_iff, UInt8.lt_iff_toNat_lt, ← UInt8.toNat_inj]
  simp only [Nat.toUInt8, UInt8.toNat_ofNat', Nat.mod_eq_of_lt hm, Nat.mod_eq_of_lt hn]

/-- Of two points the smaller one has the smaller byte at the first place where they differ. -/
theorem encodePoint_append_lexLt {m n : Nat} (hmn : m < n) (hn : n < 0x110000) (s t : Bytes) :
    LexLt (encodePoint m ++ s) (encodePoint n ++ t) := by
  unfold encodePoint
  -- One case for each pair of lengths; the bytes of each are digits to base 64.
  split_ifs <;>
    simp (disch := omega) only [List.cons_append, List.nil_append, toUInt8_cons_lexLt_iff] <;> omega

theorem encodePoint_ne_nil (n : Nat) : encodePoint n ≠ [] := by
  unfold encodePoint
  split_ifs <;> simp

theorem lePoints_cons_eq_false_iff {m n : Nat} {p q : Points} :
    lePoints (n :: q) (m :: p) = false ↔ m < n ∨ m = n ∧ lePoints q p = false := by
  rw [lePoints, Bool.or_eq_false_iff, decide_eq_false_iff_not]
  cases lePoints q p <;> simp <;> omega

theorem lePoints_eq_false_iff {p q : Points} : lePoints q p = false ↔ LexLt p q := by
  induction p generalizing q with
  | nil => cases q <;> simp [lePoints, LexLt]
  | cons m p ih =>
    cases q with
    | nil => simp [lePoints]
    | cons n q => rw [lePoints_cons_eq_false_iff, lexLt_cons_iff, ih]

theorem encode_lexLt_of_lePoints_eq_false {p q : Points} (hq : ∀ n ∈ q, n < 0x110000)
    (h : lePoints q p = false) : LexLt (encode p) (encode q) := by
  induction p generalizing q with
  | nil =>
    cases q with
    | nil => cases h
    | cons n q =>
      obtain ⟨b, bs, hb⟩ := List.exists_cons_of_ne_nil (encodePoint_ne_nil n)
      rw [encode, encode, List.flatMap_cons, hb]
      exact List.Lex.nil
  | cons m p ih =>
    cases q with
    | nil => cases h
    | cons n q =>
      rw [List.forall_mem_cons] at hq
      rw [encode, encode, List.flatMap_cons, List.flatMap_cons]
      rcases lePoints_cons_eq_false_iff.1 h with hmn | ⟨rfl, hrest⟩
      · exact encodePoint_append_lexLt hmn hq.1 _ _
      · exact List.Lex.append_left _ (ih hq.2 hrest) _

theorem le_and_le_iff {a b : String} : le a b = true ∧ le b a = true ↔ a = b := by
  constructor
  · rintro ⟨hab, hba⟩
    exact points_injective (lePoints_antisymm hab hba)
  · rintro rfl
    have := le_total a a
    rw [Bool.or_self] at this
    exact ⟨this, this⟩

theorem utf8_lexLt_of_le_eq_false {a b : String} (h : le b a = false) :
    LexLt (utf8 a) (utf8 b) := by
  refine encode_lexLt_of_lePoints_eq_false (fun n hn => ?_) h
  obtain ⟨c, -, rfl⟩ := List.mem_map.1 hn
  rcases c.valid with hc | ⟨-, hc⟩
  · exact Nat.lt_trans hc (by decide)
  · exact hc

theorem le_iff_lexLe_utf8 {a b : String} : le a b = true ↔ LexLe (utf8 a) (utf8 b) := by
  constructor
  · intro hab hlt
    by_cases hba : le b a = true
    · rw [le_and_le_iff.1 ⟨hab, hba⟩] at hlt
      exact List.lex_irrefl UInt8.lt_irrefl _ hlt
    · exact List.lt_asymm hlt (utf8_lexLt_of_le_eq_false (Bool.not_eq_true _ ▸ hba))
  · intro hab
    by_contra hnot
    exact hab (utf8_lexLt_of_le_eq_false (Bool.not_eq_true _ ▸ hnot))

end Text

/-! ## Reals -/

namespace Number.Real64

/-- How often the least real above zero goes into a magnitude. The last rank counts as the power of
two that is too large to be finite. -/
def unitsOfRank (rank : Nat) : Nat :=
  (magnitude rank).1 * 2 ^ ((magnitude rank).2 + 1074).toNat

theorem unitsOfRank_of_lt {rank : Nat} (h : rank < binade) : unitsOfRank rank = rank := by
  simp [unitsOfRank, magnitude, h]

theorem unitsOfRank_mul_add {exponent rest : Nat} (hrest : rest < binade) :
    unitsOfRank (binade * (exponent + 1) + rest) = (binade + rest) * 2 ^ exponent := by
  have hle : ¬ binade * (exponent + 1) + rest < binade := by
    rw [Nat.mul_succ]
    omega
  have hdiv : (binade * (exponent + 1) + rest) / binade = exponent + 1 := by
    rw [Nat.mul_add_div (by decide), Nat.div_eq_of_lt hrest, Nat.add_zero]
  have hexponent : (((exponent + 1 : Nat) : Int) - 1075 + 1074).toNat = exponent := by omega
  simp only [unitsOfRank, magnitude, if_neg hle, hdiv, hexponent, Nat.mul_add_mod,
    Nat.mod_eq_of_lt hrest]

theorem unitsOfRank_lt_succ (rank : Nat) : unitsOfRank rank < unitsOfRank (rank + 1) := by
  have hpos : 0 < binade := by decide
  rcases Nat.lt_or_ge rank binade with hsmall | hlarge
  · rw [unitsOfRank_of_lt hsmall]
    rcases Nat.lt_or_eq_of_le (Nat.succ_le_of_lt hsmall) with h | h
    · rw [unitsOfRank_of_lt h]
      exact Nat.lt_succ_self rank
    · have hfirst : unitsOfRank (binade * (0 + 1) + 0) = (binade + 0) * 2 ^ 0 :=
        unitsOfRank_mul_add hpos
      rw [Nat.zero_add, Nat.mul_one, Nat.add_zero, Nat.pow_zero, Nat.mul_one] at hfirst
      rw [show rank + 1 = binade from h, hfirst]
      exact hsmall
  · obtain ⟨exponent, hexponent⟩ := Nat.exists_eq_add_of_le' ((Nat.one_le_div_iff hpos).2 hlarge)
    have hrank := Nat.div_add_mod rank binade
    have hrest := Nat.mod_lt rank hpos
    rw [hexponent] at hrank
    generalize rank % binade = rest at hrank hrest
    have hpow : 0 < 2 ^ exponent := Nat.two_pow_pos exponent
    rw [← hrank, unitsOfRank_mul_add hrest]
    rcases Nat.lt_or_eq_of_le (Nat.succ_le_of_lt hrest) with h | h
    · rw [Nat.add_assoc, unitsOfRank_mul_add h]
      exact Nat.mul_lt_mul_of_pos_right (by omega) hpow
    · have hnext : binade * (exponent + 1) + rest + 1 = binade * (exponent + 1 + 1) + 0 := by
        rw [Nat.mul_succ binade (exponent + 1)]
        omega
      rw [hnext, unitsOfRank_mul_add hpos, Nat.pow_succ, Nat.add_zero, Nat.mul_comm _ 2,
        ← Nat.mul_assoc]
      exact Nat.mul_lt_mul_of_pos_right (by omega) hpow

theorem unitsOfRank_strictMono : StrictMono unitsOfRank :=
  strictMono_nat_of_lt_succ unitsOfRank_lt_succ

/-- The number that a real is, in units of the least real above zero. -/
def units : Real64 → Int
  | .nan => 0
  | .signed negative rank =>
    if negative then -(unitsOfRank rank.val : Int) else unitsOfRank rank.val

theorem le_iff_units_le {a b : Real64} (ha : a.isNan = false) (hb : b.isNan = false) :
    a.le b = true ↔ a.units ≤ b.units := by
  rw [le, decide_eq_true_eq]
  have hmono (m n : Nat) : unitsOfRank m ≤ unitsOfRank n ↔ m ≤ n :=
    unitsOfRank_strictMono.le_iff_le
  have hzero (n : Nat) : unitsOfRank n = 0 ↔ n = 0 := by
    rw [← unitsOfRank_strictMono.injective.eq_iff (a := n) (b := 0)]
    exact Iff.rfl
  cases a with
  | nan => cases ha
  | signed negative rank =>
    cases b with
    | nan => cases hb
    | signed negative' rank' =>
      have h := hmono rank rank'
      have h' := hmono rank' rank
      have hz := hzero rank
      have hz' := hzero rank'
      cases negative <;> cases negative' <;>
        simp only [key, units, if_true, Bool.false_eq_true, if_false] <;> omega

theorem key_eq_iff {a b : Real64} (ha : a.stored = a) (hb : b.stored = b) :
    a.key = b.key ↔ a = b := by
  refine ⟨fun h => ?_, fun h => by rw [h]⟩
  by_cases hzero : a.key = 0
  · rw [stored, if_pos hzero] at ha
    rw [stored, if_pos (h ▸ hzero)] at hb
    rw [← ha, hb]
  · cases a with
    | nan =>
      cases b with
      | nan => rfl
      | signed negative rank => cases negative <;> simp only [key] at h <;> omega
    | signed negative rank =>
      cases b with
      | nan => cases negative <;> simp only [key] at h <;> omega
      | signed negative' rank' =>
        cases negative <;> cases negative' <;> simp only [key] at h hzero
        · rw [Fin.ext (by omega : rank.val = rank'.val)]
        · omega
        · omega
        · rw [Fin.ext (by omega : rank.val = rank'.val)]

end Number.Real64

/-! ## Times -/

namespace Timestamp

/-- A time whose parts are those of a calendar and a clock. -/
structure InRange (t : Timestamp) : Prop where
  month : t.month ≤ 12
  day : t.day ≤ 31
  hour : t.hour < 24
  minute : t.minute < 60
  second : t.second < 60
  micro : t.micro < 1000000

def parts (t : Timestamp) : List Nat :=
  [t.year, t.month, t.day, t.hour, t.minute, t.second, t.micro]

theorem le_iff_lexLe_parts {a b : Timestamp} (ha : a.InRange) (hb : b.InRange) :
    a.le b = true ↔ LexLe a.parts b.parts := by
  obtain ⟨hmonth, hday, hhour, hminute, hsecond, hmicro⟩ := ha
  obtain ⟨hmonth', hday', hhour', hminute', hsecond', hmicro'⟩ := hb
  rw [le, decide_eq_true_eq, parts, parts]
  simp only [key, LexLe, lexLt_cons_iff, not_lexLt_nil, and_false, or_false]
  omega

end Timestamp

/-! ## Rows -/

namespace Row

/-- The order of a column as a reader of the list sees it. Dates are those of a calendar. -/
def Precedes : SortField → Row → Row → Prop
  | .id, a, b => LexLe (utf8 a.id) (utf8 b.id)
  | .name, a, b => LexLe (utf8 a.name) (utf8 b.name)
  | .cost, a, b => a.cost.units ≤ b.cost.units
  | .quantity, a, b => a.quantity ≤ b.quantity
  | .userId, a, b => LexLe (utf8 a.userId) (utf8 b.userId)
  | .created, a, b =>
    a.created.InRange → b.created.InRange → LexLe a.created.parts b.created.parts

theorem precedes_of_le {field : SortField} {a b : Row} (ha : a.cost.isNan = false)
    (hb : b.cost.isNan = false) (h : le field a b = true) : Precedes field a b := by
  cases field with
  | id => exact Text.le_iff_lexLe_utf8.1 h
  | name => exact Text.le_iff_lexLe_utf8.1 h
  | cost => exact (Real64.le_iff_units_le ha hb).1 h
  | quantity => simpa [le, Precedes] using h
  | userId => exact Text.le_iff_lexLe_utf8.1 h
  | created => exact fun ha hb => (Timestamp.le_iff_lexLe_parts ha hb).1 h

/-- Two rows that each may come before the other. -/
def Tied (field : SortField) (reverse : Bool) (a b : Row) : Prop :=
  ordered field reverse a b = true ∧ ordered field reverse b a = true

theorem tied_iff {field : SortField} {reverse : Bool} {a b : Row} :
    Tied field reverse a b ↔ le field a b = true ∧ le field b a = true := by
  cases reverse
  · exact Iff.rfl
  · exact And.comm

/-- Two rows with one value in a column. Dates have one if one number orders them. -/
def SameIn : SortField → Row → Row → Prop
  | .id, a, b => a.id = b.id
  | .name, a, b => a.name = b.name
  | .cost, a, b => a.cost = b.cost
  | .quantity, a, b => a.quantity = b.quantity
  | .userId, a, b => a.userId = b.userId
  | .created, a, b => a.created.key = b.created.key

theorem tied_iff_sameIn {field : SortField} {reverse : Bool} {a b : Row}
    (ha : a.cost.stored = a.cost) (hb : b.cost.stored = b.cost) :
    Tied field reverse a b ↔ SameIn field a b := by
  rw [tied_iff]
  cases field with
  | id => exact Text.le_and_le_iff
  | name => exact Text.le_and_le_iff
  | cost =>
    rw [SameIn, ← Real64.key_eq_iff ha hb]
    simp only [le, Real64.le, decide_eq_true_eq]
    omega
  | quantity =>
    simp only [SameIn, le, decide_eq_true_eq]
    omega
  | userId => exact Text.le_and_le_iff
  | created =>
    simp only [SameIn, le, Timestamp.le, decide_eq_true_eq]
    omega

end Row

end Stockroom
