import Stockroom.Proofs.Http.Body
import Stockroom.Proofs.Service.Refusal

/-!
# What is said of a body

A client that sends an object with faults is told of each of them under its name, and of nothing
else. A client that sends no object is told that the body cannot be decoded. Neither comes to an
operation of the core. A body that is beyond reading has an answer of its own.
-/

namespace Stockroom

open Http Number Payload Service Text

/-! ## Bodies that are rejected -/

namespace Http

def rejectionOf? {α : Type} : Except Rejection α → Option Rejection
  | .ok _ => none
  | .error rejection => some rejection

theorem rejectionOf?_eq_none_iff {α : Type} {e : Except Rejection α} :
    rejectionOf? e = none ↔ ∃ a, e = .ok a := by
  cases e <;> simp [rejectionOf?]

theorem rejectionOf?_eq_some_iff {α : Type} {e : Except Rejection α} {rejection : Rejection} :
    rejectionOf? e = some rejection ↔ e = .error rejection := by
  cases e <;> simp [rejectionOf?]

/-- Why an endpoint rejects the body of a request, if it reads one and that is not valid. -/
def Request.rejection? (r : Request) : Endpoint → Option Rejection
  | .create => rejectionOf? (readBody Payload.newProduct r)
  | .update => rejectionOf? (readBody Payload.patch r)
  | _ => none

/-- The endpoints that read a body, and the checks that they make of an object. -/
def bodyChecks : List (Endpoint × List Check) := [(.create, newChecks), (.update, patchChecks)]

variable {r : Request} {endpoint : Endpoint} {checks : List Check}

theorem distinct_of_mem_bodyChecks (hchecks : (endpoint, checks) ∈ bodyChecks) :
    Distinct checks := by
  unfold bodyChecks at hchecks
  simp only [List.mem_cons, Prod.mk.injEq, List.not_mem_nil, or_false] at hchecks
  rcases hchecks with ⟨-, rfl⟩ | ⟨-, rfl⟩
  · exact distinct_newChecks
  · exact distinct_patchChecks

theorem Request.rejection?_of_object (hchecks : (endpoint, checks) ∈ bodyChecks)
    (hjson : r.SendsJson) {ms : Members} (hbody : r.Spells (.object ms)) (hkeys : HasTextKeys ms) :
    (Passes checks ms → r.rejection? endpoint = none) ∧
      (¬ Passes checks ms →
        r.rejection? endpoint = some (.problem (.fields (report checks ms)))) := by
  unfold bodyChecks at hchecks
  simp only [List.mem_cons, Prod.mk.injEq, List.not_mem_nil, or_false] at hchecks
  unfold Request.rejection?
  rcases hchecks with ⟨rfl, rfl⟩ | ⟨rfl, rfl⟩
  · rw [rejectionOf?_eq_none_iff, rejectionOf?_eq_some_iff]
    exact readBody_of_object runs_newProduct hjson hbody hkeys
  · rw [rejectionOf?_eq_none_iff, rejectionOf?_eq_some_iff]
    exact readBody_of_object runs_patch hjson hbody hkeys

theorem Request.rejection?_of_isBeyondReading (hendpoint : endpoint = .create ∨ endpoint = .update)
    (hjson : r.SendsJson) (h : r.IsBeyondReading) : r.rejection? endpoint = some .unreadable := by
  unfold Request.rejection?
  rcases hendpoint with rfl | rfl <;>
    exact rejectionOf?_eq_some_iff.2 (readBody_of_isBeyondReading hjson h)

theorem Request.rejection?_of_not_object (hendpoint : endpoint = .create ∨ endpoint = .update)
    (hbody : ∀ ms, ¬ r.Spells (.object ms)) (h : ¬ r.IsBeyondReading) :
    r.rejection? endpoint = some (.problem .undecodable) := by
  unfold Request.rejection?
  rcases hendpoint with rfl | rfl <;>
    exact rejectionOf?_eq_some_iff.2 (readBody_of_not_object hbody h)

end Http

namespace Service

variable {σ : Type} {core : Core σ} {config : Except ConfigFault ListConfig} {r : Request} {s : σ}
  {endpoint : Endpoint} {p : Problem}

theorem rejection?_cases {rejection : Rejection} (h : r.rejection? endpoint = some rejection) :
    endpoint = .create ∧ readBody Payload.newProduct r = .error rejection ∨
      endpoint = .update ∧ readBody Payload.patch r = .error rejection := by
  unfold Request.rejection? at h
  split at h
  · exact Or.inl ⟨rfl, rejectionOf?_eq_some_iff.1 h⟩
  · exact Or.inr ⟨rfl, rejectionOf?_eq_some_iff.1 h⟩
  · cases h

theorem isRefused_of_rejection {rejection : Rejection} (hr : r.Reaches endpoint)
    (h : r.rejection? endpoint = some rejection) : r.IsRefused config := by
  rcases rejection?_cases h with ⟨rfl, hread⟩ | ⟨rfl, hread⟩
  · exact .newProduct hr hread
  · exact .patch hr hread

theorem tells_of_rejection (hr : r.Reaches endpoint)
    (h : r.rejection? endpoint = some (.problem p)) :
    (serve core config r s).Tells r (.json 400 p.answer) := by
  rcases rejection?_cases h with ⟨rfl, hread⟩ | ⟨rfl, hread⟩ <;>
    rw [← status_of_readBody hread]
  · refine tells_of_problem hr
      (exists_body_of_readBody (fun _ _ => Payload.isNamed_of_newProduct) hread) ?_
    rw [handle_of_reaches hr, carryOut, withBody_of_problem hread]
    rfl
  · refine tells_of_problem hr
      (exists_body_of_readBody (fun _ _ => Payload.isNamed_of_patch) hread) ?_
    rw [handle_of_reaches hr, carryOut, withBody_of_problem hread]
    rfl

theorem response_of_unreadable (hr : r.Reaches endpoint)
    (h : r.rejection? endpoint = some .unreadable) :
    (serve core config r s).response = some Rejection.unreadableResponse := by
  have hgarbled : r.IsGarbled := by
    rcases rejection?_cases h with ⟨rfl, hread⟩ | ⟨rfl, hread⟩
    · exact Or.inl ⟨hr, hread⟩
    · exact Or.inr ⟨hr, hread⟩
  rw [serve, handle_of_isGarbled hgarbled]
  exact conclude_respond rfl

/-! ## Objects -/

/-- An object passes its checks or is reported on. The report names the fields in which a check
finds a fault and no other field, and every name once. No operation of the core runs then. -/
theorem faults_reported (core : Core σ) (config : Except ConfigFault ListConfig) (r : Request)
    (s : σ) {endpoint : Endpoint} {checks : List Check} {ms : Members}
    (hchecks : (endpoint, checks) ∈ bodyChecks) (hr : r.Reaches endpoint) (hjson : r.SendsJson)
    (hbody : r.Spells (.object ms)) (hkeys : HasTextKeys ms) :
    let named := report checks ms
    let e := serve core config r s
    (r.rejection? endpoint = none ↔ Passes checks ms) ∧
      (named.map (·.1)).Nodup ∧
      (∀ c ∈ checks, points c.name ∈ named.map (·.1) ↔ ∃ fault, c.found? ms = some fault) ∧
      (¬ Passes checks ms → e.calls = [] ∧ e.state = s ∧
        e.Tells r (.json 400 (Problem.body Problem.fieldsMessage named))) := by
  intro named e
  obtain ⟨hvalid, hinvalid⟩ := Request.rejection?_of_object hchecks hjson hbody hkeys
  have hdistinct := distinct_of_mem_bodyChecks hchecks
  refine ⟨⟨fun hnone => ?_, hvalid⟩, nodup_report hdistinct ms,
    fun c hc => mem_report_iff hdistinct hc, fun hpasses => ?_⟩
  · by_contra hpasses
    rw [hinvalid hpasses] at hnone
    cases hnone
  · obtain ⟨hcalls, hstate⟩ : e.calls = [] ∧ e.state = s :=
      untouched_of_isRefused (isRefused_of_rejection hr (hinvalid hpasses))
    have htold : e.Tells r (.json 400 (Problem.fields named).answer) :=
      tells_of_rejection hr (hinvalid hpasses)
    exact ⟨hcalls, hstate, htold⟩

def postOf (body : List UInt8) : Request where
  server := ⟨"testserver", 80⟩
  method := "POST"
  target := ⟨"/products/", ""⟩
  headers := [("host", "testserver"), ("content-type", "application/json")]
  body := body

theorem postOf_reaches (body : List UInt8) : (postOf body).Reaches .create := by
  show dispatch productRoutes "POST" "/products/" = _
  decide

theorem postOf_sendsJson (body : List UInt8) : (postOf body).SendsJson := by
  have hjson : (postOf []).SendsJson := by
    unfold Request.SendsJson
    decide
  exact hjson

theorem postOf_isAddressed (body : List UInt8) : (postOf body).IsAddressed :=
  ⟨by rfl, "testserver", rfl, by decide⟩

/-- A client that gives an apple no name, a cost below zero and two keys that are no field is told
of these and of the two fields that it left out. Both keys are called the body, and named once. -/
theorem faulty_apple_reported :
    let body : String := "\x7b\"\": 1, \"cost\": -1, \"name\": \"\", \"body\": 2\x7d"
    let named : Faults := [("name", "String should have at least 1 character"),
      ("cost", "Input should be greater than or equal to 0"), ("quantity", "Field required"),
      ("user_id", "Field required"), ("body", "Extra inputs are not permitted")]
    let e := serve (failing (.problem badId)) (.ok .standard) (postOf (utf8 body)) ()
    ∃ ms, (postOf (utf8 body)).Spells (.object ms) ∧ HasTextKeys ms ∧ report newChecks ms = named ∧
      e.calls = [] ∧ e.response = some (.json 400 (Problem.body Problem.fieldsMessage named)) := by
  intro body named e
  have htext : decodeText? (utf8 body) = some (points body) := by decide +kernel
  have hmembers : (membersOf? (Json.read bodyDepth (points body))).any (fun ms =>
      decide (HasTextKeys ms ∧ report newChecks ms = named)) = true := by decide +kernel
  obtain ⟨ms, hms, hreport⟩ := (Option.any_eq_true _ _).1 hmembers
  obtain ⟨hkeys, hnamed⟩ := of_decide_eq_true hreport
  have hspells : (postOf (utf8 body)).Spells (.object ms) :=
    ⟨points body, htext, membersOf?_eq_some_iff.1 hms⟩
  have hpasses : ¬ Passes newChecks ms := by
    rw [← report_eq_nil_iff, hnamed]
    exact List.cons_ne_nil _ _
  have hchecks : (.create, newChecks) ∈ bodyChecks := List.mem_cons_self
  obtain ⟨-, -, -, hreported⟩ := faults_reported (failing (.problem badId)) (.ok .standard)
    (postOf (utf8 body)) () hchecks (postOf_reaches _) (postOf_sendsJson _) hspells hkeys
  obtain ⟨hcalls, -, -, htold⟩ := hreported hpasses
  exact ⟨ms, hspells, hkeys, hnamed, hcalls, hnamed ▸ htold (postOf_isAddressed _)⟩

def quantityBody (n : Int) : List UInt8 :=
  encode (Json.object [("quantity", .integer n)]).writePoints

theorem isBeyondReading_quantityBody {n : Int} (hn : 10 ^ digitLimit ≤ n.natAbs) :
    (postOf (quantityBody n)).IsBeyondReading := by
  have hall : (Json.writeString "quantity").all (fun m => decide (0 < m ∧ m < 128)) := rfl
  have hkey : ∀ m ∈ Json.writeString "quantity", 0 < m ∧ m < 128 :=
    fun m hm => of_decide_eq_true (List.all_eq_true.1 hall m hm)
  have hsign : ∀ m ∈ if decide (n < 0) then [45] else [], 0 < m ∧ m < 128 := by
    split <;> simp
  have hdigits : ∀ m ∈ (Nat.toDigits 10 n.natAbs).map Char.toNat, 0 < m ∧ m < 128 := by
    intro m hm
    have := Json.digit_bounds (Json.forall_isDigit (fun c => isDigit_of_mem_toDigits) m hm)
    omega
  have hascii : ∀ m ∈ (Json.object [("quantity", .integer n)]).writePoints, 0 < m ∧ m < 128 := by
    rw [Json.writePoints_member, Json.writePoints_integer]
    simp only [List.forall_mem_cons, List.forall_mem_append]
    exact ⟨by decide, hkey, by decide, ⟨hsign, hdigits⟩, by decide, by simp⟩
  intro text htext
  obtain rfl := Option.some.inj (htext.symm.trans (decodeText?_encode hascii))
  exact Json.read_long_member 899 "quantity" hn

/-- A client whose quantity has more digits than the reader takes is not told what it left out. -/
theorem long_quantity_unreported :
    let n : Int := 10 ^ digitLimit
    let ms : Members := [("quantity", .integer n)]
    let r := postOf (quantityBody n)
    r.Reaches .create ∧ r.SendsJson ∧ HasTextKeys ms ∧
      (report newChecks ms).map (·.1) = [points "name", points "cost", points "user_id"] ∧
      (serve (failing (.problem badId)) (.ok .standard) r ()).response =
        some Rejection.unreadableResponse := by
  intro n ms r
  have hn : 10 ^ digitLimit ≤ n.natAbs := by decide +kernel
  have hbeyond : r.IsBeyondReading := isBeyondReading_quantityBody hn
  have hrejected : r.rejection? .create = some .unreadable :=
    Request.rejection?_of_isBeyondReading (Or.inl rfl) (postOf_sendsJson _) hbeyond
  exact ⟨postOf_reaches _, postOf_sendsJson _, by decide +kernel, by decide +kernel,
    response_of_unreadable (postOf_reaches _) hrejected⟩

/-! ## What is no object -/

def undecodableResponse : Response := .json 400 (Problem.body Problem.decodeMessage [])

/-- A body that spells no object never comes to an operation of the core. It is answered as one that
cannot be decoded exactly if it is not beyond reading and the log can name the request; no text
within the limits of the reader is beyond reading. -/
theorem undecodable_refused (core : Core σ) (config : Except ConfigFault ListConfig) (r : Request)
    (s : σ) {endpoint : Endpoint} (hendpoint : endpoint = .create ∨ endpoint = .update)
    (hr : r.Reaches endpoint) (hjson : r.SendsJson) (hbody : ∀ ms, ¬ r.Spells (.object ms)) :
    let e := serve core config r s
    e.calls = [] ∧ e.state = s ∧
      (e.response = some undecodableResponse ↔
        ¬ r.IsBeyondReading ∧ ∃ subject, r.subject = .ok subject) ∧
      (r.IsBeyondReading → e.response = some Rejection.unreadableResponse) ∧
      ∀ text, decodeText? r.body = some text → Json.Within bodyDepth text →
        e.Tells r undecodableResponse := by
  intro e
  have hbeyond : r.IsBeyondReading → r.rejection? endpoint = some .unreadable :=
    Request.rejection?_of_isBeyondReading hendpoint hjson
  have hreading : ¬ r.IsBeyondReading → r.rejection? endpoint = some (.problem .undecodable) :=
    Request.rejection?_of_not_object hendpoint hbody
  have hrefused : r.IsRefused config := by
    by_cases h : r.IsBeyondReading
    · exact isRefused_of_rejection hr (hbeyond h)
    · exact isRefused_of_rejection hr (hreading h)
  have htells : ¬ r.IsBeyondReading → e.Tells r (.json 400 Problem.undecodable.answer) := fun h =>
    tells_of_rejection hr (hreading h)
  obtain ⟨hcalls, hstate⟩ : e.calls = [] ∧ e.state = s := untouched_of_isRefused hrefused
  refine ⟨hcalls, hstate, ⟨fun hresponse => ?_, ?_⟩, fun h => response_of_unreadable hr (hbeyond h),
    fun text htext hwithin => htells (Request.not_isBeyondReading htext hwithin)⟩
  · have hnot : ¬ r.IsBeyondReading := by
      intro h
      have hother : e.response = _ := response_of_unreadable hr (hbeyond h)
      rw [hother, Option.some.injEq] at hresponse
      revert hresponse
      decide +kernel
    refine ⟨hnot, ?_⟩
    rw [(htells hnot).1] at hresponse
    cases hsubject : r.subject with
    | ok subject => exact ⟨subject, rfl⟩
    | error fault =>
      rw [hsubject] at hresponse
      cases hresponse
  · rintro ⟨hnot, subject, hsubject⟩
    rw [(htells hnot).1, hsubject]
    rfl

example : undecodableResponse.body = "\x7b\"error\":\"unable to decode payload\"\x7d" := by
  decide

theorem not_spells_object {body : List UInt8}
    (h : (decodeText? body).bind (fun text => membersOf? (Json.read bodyDepth text)) = none)
    (ms : Members) : ¬ (postOf body).Spells (.object ms) := by
  rintro ⟨text, htext, hread⟩
  have htext' : decodeText? body = some text := htext
  rw [htext', Option.bind_some, membersOf?_eq_some_iff.2 hread] at h
  cases h

theorem list_undecodable :
    let r := postOf (utf8 "[1]")
    let e := serve (failing (.problem badId)) (.ok .standard) r ()
    (∀ ms, ¬ r.Spells (.object ms)) ∧ e.calls = [] ∧ e.response = some undecodableResponse := by
  intro r e
  have hbody : ∀ ms, ¬ r.Spells (.object ms) := not_spells_object (by decide +kernel)
  obtain ⟨hcalls, -, -, -, htold⟩ := undecodable_refused (failing (.problem badId))
    (.ok .standard) r () (Or.inl rfl) (postOf_reaches _) (postOf_sendsJson _) hbody
  have htext : decodeText? r.body = some (points "[1]") := by decide +kernel
  exact ⟨hbody, hcalls, (htold _ htext (by decide +kernel)).2 (postOf_isAddressed _)⟩

/-- A byte that begins no character has another answer. -/
theorem stray_byte_unreadable :
    let r := postOf [0xFF]
    r.Reaches .create ∧ r.SendsJson ∧ (∀ ms, ¬ r.Spells (.object ms)) ∧
      (serve (failing (.problem badId)) (.ok .standard) r ()).response =
        some Rejection.unreadableResponse ∧
      Rejection.unreadableResponse ≠ undecodableResponse := by
  intro r
  exact ⟨postOf_reaches _, postOf_sendsJson _, not_spells_object (by decide +kernel),
    by decide +kernel, by decide +kernel⟩

end Service

end Stockroom
