import Mathlib.Data.List.SplitBy
import Stockroom.Http.Form

/-!
# Parameters as they are read

Whatever stands in a query string, names and texts of its parameters are strings. A name and a text
of letters and digits stand for themselves.
-/

namespace Stockroom.Http

open Text

/-! ## Strings -/

theorem Form.isClean_of_mem_params {query : String} {p : Points × Points}
    (hp : p ∈ params query) : IsClean p.1 ∧ IsClean p.2 := by
  obtain ⟨part, -, rfl⟩ := List.mem_map.1 hp
  exact ⟨isClean_points _, isClean_points _⟩

/-! ## ASCII -/

theorem encode_of_lt {p : Points} (hp : ∀ n ∈ p, n < 128) : encode p = p.map Nat.toUInt8 := by
  induction p with
  | nil => rfl
  | cons n p ih =>
    rw [List.forall_mem_cons] at hp
    rw [encode, List.flatMap_cons, encodePoint, if_pos hp.1, ← encode, ih hp.2]
    rfl

theorem toNat_toUInt8 {n : Nat} (hn : n < 128) : n.toUInt8.toNat = n := by
  simp only [Nat.toUInt8, UInt8.toNat_ofNat']
  omega

theorem ofNat_toUInt8_toNat {c : Char} (hc : c.toNat < 128) :
    Char.ofNat c.toNat.toUInt8.toNat = c := by
  rw [toNat_toUInt8 hc, Char.ofNat_toNat]

theorem decodePieces_of_lt (surrogates : Bool) {l : List Nat} (hl : ∀ n ∈ l, n < 128) :
    decodePieces surrogates l.length l = l.map some := by
  induction l with
  | nil => rfl
  | cons n l ih =>
    rw [List.forall_mem_cons] at hl
    have hstep : step surrogates n l = (some n, 0) := by
      rw [step, lead?, if_pos hl.1]
      rfl
    rw [List.length_cons, decodePieces, hstep, List.map_cons, ← ih hl.2]
    rfl

namespace Percent

theorem byteText_of_lt {s : String} (hs : ∀ c ∈ s.toList, c.toNat < 128) : byteText s = s := by
  have hpoints : ∀ n ∈ points s, n < 128 := by
    intro n hn
    obtain ⟨c, hc, rfl⟩ := List.mem_map.1 hn
    exact hs c hc
  rw [byteText, utf8, encode_of_lt hpoints, points, List.map_map, List.map_map]
  conv => rhs; rw [← String.ofList_toList (s := s), ← List.map_id s.toList]
  congr 1
  exact List.map_congr_left fun c hc => ofNat_toUInt8_toNat (hs c hc)

theorem bytes_of_forall_ne {s : List Char} (hs : ∀ c ∈ s, c ≠ '%') :
    bytes s = s.map fun c => c.toNat.toUInt8 := by
  induction s with
  | nil => rfl
  | cons c s ih =>
    rw [List.forall_mem_cons] at hs
    rw [bytes.eq_3 c s fun _ _ _ hc _ => hs.1 hc, ih hs.2]
    rfl

theorem decode_of_lt {s : List Char} (hs : ∀ c ∈ s, c.toNat < 128 ∧ c ≠ '%') : decode s = s := by
  have hrun (run : List Char) (hrun : ∀ c ∈ run, c.toNat < 128 ∧ c ≠ '%') :
      decodeRun run = run := by
    have hlt : ∀ n ∈ run.map Char.toNat, n < 128 := by
      intro n hn
      obtain ⟨c, hc, rfl⟩ := List.mem_map.1 hn
      exact (hrun c hc).1
    have hback : (bytes run).map UInt8.toNat = run.map Char.toNat := by
      rw [bytes_of_forall_ne fun c hc => (hrun c hc).2, List.map_map]
      exact List.map_congr_left fun c hc => toNat_toUInt8 (hrun c hc).1
    have hlength : (bytes run).length = (run.map Char.toNat).length := by
      rw [← hback, List.length_map]
    have hascii : run.all isAscii = true :=
      List.all_eq_true.2 fun c hc => decide_eq_true (hrun c hc).1
    rw [decodeRun, if_pos hascii, decodeLossy, hlength, hback, decodePieces_of_lt false hlt]
    simp [Function.comp_def, Char.ofNat_toNat]
  have hruns : (s.splitBy fun a b => isAscii a == isAscii b).map decodeRun =
      s.splitBy fun a b => isAscii a == isAscii b := by
    conv => rhs; rw [← List.map_id (s.splitBy _)]
    refine List.map_congr_left fun run hmem => hrun run fun c hc => hs c ?_
    rw [← List.flatten_splitBy (fun a b => isAscii a == isAscii b) s]
    exact List.mem_flatten.2 ⟨run, hmem, hc⟩
  rw [decode, List.flatMap_def, hruns, List.flatten_splitBy]

end Percent

/-! ## Plain characters -/

namespace Form

/-- A character of ASCII that stands for itself in a text of a query string. -/
def IsPlain (c : Char) : Prop := c.toNat < 128 ∧ c ≠ '%' ∧ c ≠ '+' ∧ c ≠ '&'

instance : DecidablePred IsPlain := fun c =>
  inferInstanceAs (Decidable (c.toNat < 128 ∧ c ≠ '%' ∧ c ≠ '+' ∧ c ≠ '&'))

theorem isPlain_of_isAlphanum {c : Char} (hc : c.isAlphanum = true) : IsPlain c := by
  have hrange := toNat_of_isAlphanum hc
  refine ⟨by omega, ?_, ?_, ?_⟩ <;> rintro rfl <;> exact absurd hc (by decide)

theorem decodePart_of_isPlain {s : List Char} (hs : ∀ c ∈ s, IsPlain c) :
    decodePart s = String.ofList s := by
  have hplus : plusToSpace s = s := by
    conv => rhs; rw [← List.map_id s]
    refine List.map_congr_left fun c hc => if_neg ?_
    simpa using (hs c hc).2.2.1
  rw [decodePart, hplus, Percent.decode_of_lt fun c hc => ⟨(hs c hc).1, (hs c hc).2.1⟩]

/-- A name with its text, as a query string has it. -/
def written (p : String × String) : List Char := p.1.toList ++ '=' :: p.2.toList

/-- A name and a text that stand for themselves. -/
structure Plain (p : String × String) : Prop where
  name : ∀ c ∈ p.1.toList, IsPlain c ∧ c ≠ '='
  text : ∀ c ∈ p.2.toList, IsPlain c

theorem Plain.parameter_written {p : String × String} (hp : Plain p) :
    parameter (written p) = (points p.1, points p.2) := by
  have hsplit : splitFirst (· == '=') (p.1.toList ++ '=' :: p.2.toList) =
      (p.1.toList, some p.2.toList) :=
    splitFirst_append (fun c hc => beq_false_of_ne (hp.name c hc).2) rfl
  rw [parameter, written, hsplit]
  dsimp only
  rw [Option.getD_some, decodePart_of_isPlain fun c hc => (hp.name c hc).1,
    decodePart_of_isPlain hp.text, String.ofList_toList, String.ofList_toList]

theorem Plain.mem_written {p : String × String} (hp : Plain p) {c : Char} (hc : c ∈ written p) :
    c.toNat < 128 ∧ c ≠ '&' := by
  have hplain {c : Char} (h : IsPlain c) : c.toNat < 128 ∧ c ≠ '&' := ⟨h.1, h.2.2.2⟩
  rcases List.mem_append.1 hc with hc | hc
  · exact hplain (hp.name c hc).1
  rcases List.mem_cons.1 hc with rfl | hc
  · decide
  · exact hplain (hp.text c hc)

theorem params_of_plain {query : String} (ps : List (String × String)) (hne : ps ≠ [])
    (hquery : query.toList = ['&'].intercalate (ps.map written)) (hps : ∀ p ∈ ps, Plain p) :
    params query = ps.map fun p => (points p.1, points p.2) := by
  have hpieces : query.toList.splitOn '&' = ps.map written := by
    rw [hquery]
    refine List.splitOn_intercalate '&' (fun piece hpiece hmem => ?_) (by simpa using hne)
    obtain ⟨p, hp, rfl⟩ := List.mem_map.1 hpiece
    exact ((hps p hp).mem_written hmem).2 rfl
  have hbytes : Percent.byteText query = query := by
    refine Percent.byteText_of_lt fun c hc => ?_
    by_cases hamp : c = '&'
    · rw [hamp]
      decide
    · have hmem : c ∈ query.toList.filter (· != '&') :=
        List.mem_filter.2 ⟨hc, by simpa using hamp⟩
      rw [← flatten_splitOn, hpieces, List.mem_flatten] at hmem
      obtain ⟨piece, hpiece, hmem⟩ := hmem
      obtain ⟨p, hp, rfl⟩ := List.mem_map.1 hpiece
      exact ((hps p hp).mem_written hmem).1
  rw [params, hbytes, hpieces, List.filter_eq_self.2, List.map_map]
  · exact List.map_congr_left fun p hp => (hps p hp).parameter_written
  · intro piece hpiece
    obtain ⟨p, -, rfl⟩ := List.mem_map.1 hpiece
    simp [written]

theorem params_of_isAlphanum {name value : String} (hname : ∀ c ∈ name.toList, c.isAlphanum = true)
    (hvalue : ∀ c ∈ value.toList, c.isAlphanum = true) :
    params (name ++ "=" ++ value) = [(points name, points value)] := by
  have hequals (c : Char) (hc : c ∈ name.toList) : c ≠ '=' := by
    rintro rfl
    exact absurd (hname '=' hc) (by decide)
  have hplain : Plain (name, value) :=
    ⟨fun c hc => ⟨isPlain_of_isAlphanum (hname c hc), hequals c hc⟩,
      fun c hc => isPlain_of_isAlphanum (hvalue c hc)⟩
  exact params_of_plain [(name, value)] (List.cons_ne_nil _ _) (by simp [written])
    (List.forall_mem_singleton.2 hplain)

end Form

end Stockroom.Http
