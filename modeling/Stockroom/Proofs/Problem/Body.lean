import Stockroom.Proofs.Json.RoundTrip
import Stockroom.Proofs.Service

/-!
# Bodies of problems are read back

The names and the messages of a problem may be any strings, since a client can put what it likes
into them. Read as JSON, the body gives back the error text and, if there are faults, their names
and messages in order, and nothing else. So no two reports have one body.
-/

namespace Stockroom

open Text

namespace Problem

open Http Service

/-- What a problem says to the client, apart from fields. -/
def error : Problem → Points
  | .decode message => message
  | .fields _ => fieldsMessage
  | .request _ message => message
  | .internal _ _ => internalMessage

/-- The faults that a problem tells the client. -/
def faults : Problem → Faults
  | .fields faults => faults
  | _ => []

theorem answer_eq (p : Problem) : p.answer = body p.error p.faults := by
  cases p <;> rfl

/-- Faults that a report may hold: strings, no two under one name. -/
structure IsReport (faults : Faults) : Prop where
  strings : ∀ f ∈ faults, IsString f.1 ∧ IsString f.2
  distinct : (faults.map Prod.fst).Nodup

theorem isReport_nil : IsReport [] := ⟨fun _ hf => absurd hf List.not_mem_nil, List.nodup_nil⟩

/-! ## Bodies -/

section

variable (limit : Option Nat) (depth : Nat)

theorem readable_faults {faults : Faults} (h : IsReport faults) :
    Json.Readable limit (depth + 1) (.object (faults.map fun f => (f.1, .string f.2))) := by
  refine ⟨?_, Json.readableMembers_iff.2 fun m hm => ?_⟩
  · rw [List.map_map]
    exact h.distinct
  · obtain ⟨f, hf, rfl⟩ := List.mem_map.1 hm
    exact h.strings f hf

theorem readable_body {error : Points} {faults : Faults} (herror : IsString error)
    (h : IsReport faults) : Json.Readable limit (depth + 2) (body error faults) := by
  have hfirst : IsString "error" ∧ Json.Readable limit (depth + 1) (.string error) :=
    ⟨isString_points "error".toList, herror⟩
  have hsecond : IsString "fields" ∧ _ :=
    ⟨isString_points "fields".toList, readable_faults limit depth h⟩
  unfold body
  split
  · exact ⟨List.nodup_singleton _,
      Json.readableMembers_iff.2 (List.forall_mem_singleton.2 hfirst)⟩
  · have hkeys : [points "error", points "fields"].Nodup := by decide
    refine ⟨hkeys, Json.readableMembers_iff.2 ?_⟩
    exact List.forall_mem_cons.2 ⟨hfirst, List.forall_mem_singleton.2 hsecond⟩

end

theorem body_injective {error : Points} {a b : Faults} (h : body error a = body error b) :
    a = b := by
  have hnamed {a b : Faults} (h : (a.map fun f => (f.1, Json.string f.2)) =
      b.map fun f => (f.1, Json.string f.2)) : a = b := by
    refine List.map_injective_iff.2 ?_ h
    rintro ⟨_, _⟩ ⟨_, _⟩ heq
    cases heq
    rfl
  cases a with
  | nil =>
    cases b with
    | nil => rfl
    | cons f b => simp [body] at h
  | cons f a =>
    cases b with
    | nil => simp [body] at h
    | cons g b => exact hnamed (by simpa [body] using h)

/-! ## Answers -/

/-- Whoever raised a problem, it is answered with a status and a text that is read as a value. -/
def IsAnswered (p : Problem) (status : Nat) (j : Json) : Prop :=
  ∃ text, problemResponse p = .ok (.ofJsonText status text) ∧
    (∀ {σ : Type} (subject : Points) (h : Handled σ), h.verdict = .problem p →
      (conclude (.ok subject) h).response = some (.ofJsonText status text)) ∧
    ∀ limit depth, Json.readWithin limit (depth + 2) (points text) = .ok j

theorem isAnswered {p : Problem} (herror : IsString p.error) (hfaults : IsReport p.faults) :
    p.IsAnswered p.status (body p.error p.faults) := by
  obtain ⟨text, htext⟩ := exists_body herror.isClean fun f hf =>
    ⟨(hfaults.strings f hf).1.isClean, (hfaults.strings f hf).2.isClean⟩
  have hresponse : problemResponse p = .ok (.ofJsonText p.status text) := by
    rw [problemResponse, answer_eq, htext]
    rfl
  refine ⟨text, hresponse, fun subject h hv => ?_, fun limit depth => ?_⟩
  · rw [conclude_problem hv, hresponse]
    rfl
  · rw [← Json.write_of_body htext]
    exact Json.readWithin_write (readable_body limit depth herror hfaults)

theorem IsAnswered.eq {p q : Problem} {m n : Nat} {j k : Json} (hp : p.IsAnswered m j)
    (hq : q.IsAnswered n k) (h : problemResponse p = problemResponse q) : j = k := by
  obtain ⟨text, hresponse, -, hread⟩ := hp
  obtain ⟨other, hother, -, hreadOther⟩ := hq
  rw [hresponse, hother] at h
  obtain rfl : text = other := congrArg Response.body (Except.ok.inj h)
  have hsame := hread none 0
  rw [hreadOther none 0] at hsame
  exact (Except.ok.inj hsame).symm

/-- The body of a report is an object with the error text and, exactly if there are faults, an
object with their names and messages in order. The body of a problem without faults has nothing but
its text. What a name or a message holds never changes that, so different reports have different
bodies. -/
theorem reports_read_back :
    (∀ faults, IsReport faults →
      (Problem.fields faults).IsAnswered 400
        (.object (("error", .text "data validation error") ::
          if faults = [] then []
          else [("fields", .object (faults.map fun f => (f.1, .string f.2)))]))) ∧
      (∀ p : Problem, p.faults = [] → IsString p.error →
        p.IsAnswered p.status (.object [("error", .string p.error)])) ∧
      ∀ a b, IsReport a → IsReport b →
        problemResponse (.fields a) = problemResponse (.fields b) → a = b := by
  have hfields (faults : Faults) (h : IsReport faults) :
      (Problem.fields faults).IsAnswered 400 (body fieldsMessage faults) :=
    isAnswered (p := .fields faults) (isString_points fieldsMessage.toList) h
  refine ⟨fun faults h => ?_, fun p hnone herror => ?_, fun a b ha hb h => ?_⟩
  · cases faults with
    | nil => exact hfields [] h
    | cons f rest => exact hfields (f :: rest) h
  · have hanswered := isAnswered herror (hnone ▸ isReport_nil)
    rwa [hnone] at hanswered
  · exact body_injective ((hfields a ha).eq (hfields b hb) h)

/-- Faults with names that look like the rest of a body, and messages with all that is escaped. -/
def forgedFaults : Faults :=
  [("\"\x7d,\"error\":\"", "\\ \x00 é"), ("error", "\"\n\x7d\x7d"), ("", "")]

theorem isReport_forgedFaults : IsReport forgedFaults where
  strings := by
    simp only [forgedFaults, List.forall_mem_cons]
    exact ⟨⟨isString_points _, isString_points _⟩, ⟨isString_points _, isString_points _⟩,
      ⟨isString_points _, isString_points _⟩, fun _ hf => absurd hf List.not_mem_nil⟩
  distinct := by decide

theorem forged_faults_read_back :
    (Problem.fields forgedFaults).IsAnswered 400
        (.object [("error", .text "data validation error"),
          ("fields", .object
            [("\"\x7d,\"error\":\"", .text "\\ \x00 é"), ("error", .text "\"\n\x7d\x7d"),
              ("", .text "")])]) ∧
      (Problem.fields []).IsAnswered 400 (.object [("error", .text "data validation error")]) ∧
      (Problem.request 404 "\"fields\"").IsAnswered 404
        (.object [("error", .text "\"fields\"")]) ∧
      problemResponse (.fields forgedFaults) ≠ problemResponse (.fields []) := by
  obtain ⟨hfields, htext, hdiffer⟩ := reports_read_back
  have hne : forgedFaults ≠ [] := List.cons_ne_nil _ _
  exact ⟨hfields _ isReport_forgedFaults, hfields [] isReport_nil,
    htext (.request 404 "\"fields\"") rfl (isString_points _),
    fun h => hne (hdiffer _ _ isReport_forgedFaults isReport_nil h)⟩

end Problem

end Stockroom
