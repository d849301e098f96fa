import Stockroom.Http.Body
import Stockroom.Proofs.Http.Form
import Stockroom.Proofs.Json.Limits
import Stockroom.Proofs.Payload.Report

/-!
# Bodies and what they spell

A body that is sent as JSON spells a value, or it is no JSON text, or it is beyond reading. An
object is validated and reported on; every other value cannot be decoded, and neither can a text
that is no JSON.
-/

namespace Stockroom.Http

open Payload Text

/-! ## ASCII -/

theorem detectEncoding_of_lt {p : Points} (hp : ∀ n ∈ p, 0 < n ∧ n < 128) :
    detectEncoding p = (.utf8, p) := by
  have hmark : markedEncoding? p = none := by
    unfold markedEncoding?
    split <;> first | rfl | simp at hp
  have hguess : guessedEncoding p = .utf8 := by
    unfold guessedEncoding
    split
    · next a b c d rest =>
      simp only [List.forall_mem_cons] at hp
      rw [if_neg (by omega), if_neg (by omega)]
    · next a b =>
      simp only [List.forall_mem_cons] at hp
      rw [if_neg (by omega), if_neg (by omega)]
    · rfl
  rw [detectEncoding, hmark, hguess, Option.getD_none]

theorem decodeText?_encode {p : Points} (hp : ∀ n ∈ p, 0 < n ∧ n < 128) :
    decodeText? (encode p) = some p := by
  have hlt : ∀ n ∈ p, n < 128 := fun n hn => (hp n hn).2
  have hback : (p.map Nat.toUInt8).map UInt8.toNat = p := by
    rw [List.map_map]
    conv => rhs; rw [← List.map_id p]
    exact List.map_congr_left fun n hn => toNat_toUInt8 (hlt n hn)
  have hpieces : (p.map some).mapM id = some p := by
    have hid : p.mapM (id ∘ some) = some (p.map id) := Number.mapM_eq_some_map fun _ _ => rfl
    rw [List.mapM_map, hid, List.map_id]
  unfold decodeText?
  rw [encode_of_lt hlt, hback, detectEncoding_of_lt hp]
  dsimp only
  rw [decode?, hback, List.length_map, decodePieces_of_lt true hlt, hpieces]

/-! ## What a body spells -/

variable {α : Type} {r : Request}

def Request.SendsJson (r : Request) : Prop := (r.header? "content-type").any isJsonType = true

/-- The body is the JSON text of a value, in one of the encodings of Unicode. -/
def Request.Spells (r : Request) (j : Json) : Prop :=
  ∃ text, decodeText? r.body = some text ∧ Json.read bodyDepth text = .ok j

def membersOf? : Except Json.ReadFault Json → Option Members
  | .ok (.object ms) => some ms
  | _ => none

theorem membersOf?_eq_some_iff {e : Except Json.ReadFault Json} {ms : Members} :
    membersOf? e = some ms ↔ e = .ok (.object ms) := by
  unfold membersOf?
  split <;> simp_all

/-- The body is no text, or one that goes beyond the limits of the reader. -/
def Request.IsBeyondReading (r : Request) : Prop :=
  ∀ text, decodeText? r.body = some text → Json.read bodyDepth text = .error .beyondLimits

theorem read_empty : Json.read bodyDepth [] = .error .malformed := by rfl

theorem decodeText?_empty : decodeText? [] = some [] := by decide

theorem Request.Spells.body_ne_nil {j : Json} (h : r.Spells j) : r.body ≠ [] := by
  obtain ⟨text, htext, hread⟩ := h
  intro hnil
  rw [hnil, decodeText?_empty, Option.some.injEq] at htext
  rw [← htext, read_empty] at hread
  cases hread

theorem Request.SendsJson.not_guarded (hjson : r.SendsJson) (hbody : r.body ≠ []) :
    ¬ (r.body.isEmpty || !(r.header? "content-type").any isJsonType) = true := by
  have hempty : r.body.isEmpty = false := by simpa using hbody
  rw [hempty, show (r.header? "content-type").any isJsonType = true from hjson]
  decide

theorem sendsJson_of_readBody {validate : Json → Except (List Issue) α} {a : α}
    (h : readBody validate r = .ok a) : r.SendsJson := by
  unfold readBody at h
  split at h
  · cases h
  · next hguard =>
    simp only [Bool.or_eq_true, not_or, Bool.not_eq_true, Bool.not_eq_false'] at hguard
    exact hguard.2

theorem readBody_of_spells {validate : Json → Except (List Issue) α} {j : Json}
    (hjson : r.SendsJson) (h : r.Spells j) :
    readBody validate r = (validate j).mapError fun issues =>
      .problem (.classify (issues.map Issue.record)) := by
  have hguard := hjson.not_guarded h.body_ne_nil
  obtain ⟨text, htext, hread⟩ := h
  unfold readBody
  rw [if_neg hguard, htext]
  simp only [hread]
  cases validate j <;> rfl

theorem readBody_of_object {checks : List Check} {validate : Json → Except (List Issue) α}
    (hruns : Runs checks validate) (hjson : r.SendsJson) {ms : Members}
    (h : r.Spells (.object ms)) (hkeys : HasTextKeys ms) :
    (Passes checks ms → ∃ a, readBody validate r = .ok a) ∧
      (¬ Passes checks ms →
        readBody validate r = .error (.problem (.fields (report checks ms)))) := by
  obtain ⟨extras, hextras, hunknown⟩ := exists_extras hkeys (checks.map Check.name)
  have hnil := issues_eq_nil_iff hunknown
  rw [readBody_of_spells hjson h]
  refine ⟨fun hpasses => ?_, fun hpasses => ?_⟩
  · obtain ⟨a, ha⟩ := hruns.ok hextras (hnil.2 hpasses)
    exact ⟨a, by rw [ha]; rfl⟩
  · rw [hruns.error hextras (mt hnil.1 hpasses), ← classify_issues hruns.toDistinct hunknown]
    rfl

theorem readBody_of_isBeyondReading {validate : Json → Except (List Issue) α} (hjson : r.SendsJson)
    (h : r.IsBeyondReading) : readBody validate r = .error .unreadable := by
  have hbody : r.body ≠ [] := by
    intro hnil
    have hread := h [] (by rw [hnil, decodeText?_empty])
    rw [read_empty] at hread
    cases hread
  unfold readBody
  rw [if_neg (hjson.not_guarded hbody)]
  cases htext : decodeText? r.body with
  | none => rfl
  | some text => simp only [h text htext]

theorem classify_whole (fault : Fault) :
    Problem.classify [(⟨[], fault⟩ : Issue).record] = .undecodable := by
  unfold Problem.classify
  simp [Issue.record, Problem.Record.isDecode]

/-- What spells no object cannot be decoded, if it is not beyond reading. -/
theorem readBody_of_not_object {model : String} {fields : List String}
    {read : Members → List String → Except (List Issue) α}
    (h : ∀ ms, ¬ r.Spells (.object ms)) (hreading : ¬ r.IsBeyondReading) :
    readBody (ofObject model fields read) r = .error (.problem .undecodable) := by
  unfold readBody
  split
  · rfl
  · unfold Request.IsBeyondReading at hreading
    push Not at hreading
    obtain ⟨text, htext, hlimits⟩ := hreading
    rw [htext]
    dsimp only
    cases hread : Json.read bodyDepth text with
    | error fault =>
      cases fault with
      | malformed => rfl
      | beyondLimits => exact absurd hread hlimits
    | ok j =>
      cases j with
      | object ms => exact absurd ⟨text, htext, hread⟩ (h ms)
      | _ => simp [ofObject, classify_whole]

theorem Request.not_isBeyondReading {text : Points} (htext : decodeText? r.body = some text)
    (hwithin : Json.Within bodyDepth text) : ¬ r.IsBeyondReading :=
  fun h => Json.read_ne_beyondLimits hwithin (h text htext)

end Stockroom.Http
