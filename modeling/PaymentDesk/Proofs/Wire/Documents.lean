import PaymentDesk.Operation
import PaymentDesk.Proofs.Dialogue.Boundless
import PaymentDesk.Proofs.Json.Roundtrip
import PaymentDesk.Transport.Recording
import PaymentDesk.Wire.Outgoing

/-!
# Documents that are read back

A document that was read can be written in two forms: as a page for the operator, and as compact text for the service
and for queued replies. **Both are read back as the same document**, if its numbers are integers
(`documents_read_back`).
-/

namespace PaymentDesk

open Text

variable {status : Nat} {s : List Char} {v : Json.Value}

theorem Response.json_eq_ok_iff : Response.json ⟨status, s⟩ = .ok v ↔ Json.parse s = .ok v := by
  rw [Response.json]
  cases Json.parse s with
  | error f => exact iff_of_false nofun nofun
  | ok v' => exact ⟨fun h => by cases h; rfl, fun h => by cases h; rfl⟩

/-- The body of a request is sent as compact text. -/
theorem Config.body_of_outgoing {c : Config} {q : Request} {o : Outgoing} (h : c.outgoing q = .ok o) :
    o.body = q.body.map Json.compact := by
  rw [outgoing] at h
  cases hu : c.urlFor q with
  | error err =>
    rw [hu] at h
    cases h
  | ok u =>
    rw [hu] at h
    simp only [Except.map] at h
    split at h <;> cases h <;> rfl

/-! ## The bodies of the desk -/

/-- A member of a body is a text, or a number of 64 bits. -/
def Member (d : Json.Value) : Prop := (∃ t, d = .string t) ∨ ∃ n, n < Nat.pow 2 64 ∧ d = natValue n

theorem Member.readable {d : Json.Value} (h : Member d) : Json.Readable 126 d ∧ Json.Integral d := by
  rcases h with ⟨t, rfl⟩ | ⟨n, hn, rfl⟩
  · refine ⟨.string 126 t, ?_⟩
    rw [Json.Integral, Json.numbers]
    exact List.forall_mem_nil _
  · refine ⟨.number 126 ⟨by omega, Int.ofNat_lt.mpr hn⟩, ?_⟩
    rw [Json.Integral, natValue, Json.numbers, List.forall_mem_singleton]
    rfl

/-- A body is read back from its compact text. -/
theorem Fields.json_document {f : Fields} (h : ∀ e ∈ f, Member e.2) (n : Nat) :
    Response.json ⟨n, Json.compact f.document⟩ = .ok f.document := by
  have members (e : List Char × Json.Value) (he : e ∈ Json.collect f) := (h e (Json.mem_collect he)).readable
  have readable : Json.Readable 127 f.document :=
    .object (Json.ascending_collect f) fun e he => (members e he).1
  have integral : Json.Integral f.document := Json.integral_object fun e he => (members e he).2
  exact Response.json_eq_ok_iff.mpr (Json.parse_compact readable integral)

theorem member_creation (style : ReferenceStyle) (second : Int) :
    ∀ e ∈ (Creation.sample style second).fields, Member e.2 := by
  have number : Member (natValue 3000) := .inr ⟨3000, by decide, rfl⟩
  have text (t : List Char) : Member (.string t) := .inl ⟨t, rfl⟩
  cases style <;> simp [Creation.fields, Creation.sample, Reference.stamped, Reference.fields, number, text]

theorem member_refund : ∀ e ∈ Refund.fields {}, Member e.2 := by
  have number (n : Nat) (hn : n < Nat.pow 2 64) : Member (natValue n) := .inr ⟨n, hn, rfl⟩
  have amount := number 500 (by decide)
  have available := number 3000 (by decide)
  simp [Refund.fields, amount, available]

/-! ## Documents on their way -/

/-- **Documents are read back.** What shows a document that was read, with integers only, is read as the same document;
so is its compact text, which is the body of a queued reply, and of a request on its way to the service. The bodies that
the desk sends are such documents. -/
theorem documents_read_back (hv : Response.json ⟨status, s⟩ = .ok v) (hint : Json.Integral v) :
    (∀ {σ : Type} (e : Setting σ) (w : World σ), w.sink = {} → ∃ text,
      ((Dialogue.present (Json.page v)).run e w).1 = .ok () ∧
      Utf8.decode? ((Dialogue.present (Json.page v)).run e w).2.sink.stored = some text ∧
      ∀ n, Response.json ⟨n, text⟩ = .ok v) ∧
    (∀ n, Response.json ⟨n, Json.compact v⟩ = .ok v) ∧
    (∀ (clock : Nat → Int) (w : World Recording) (n : Nat) (q : Request), w.transport.replies = [] →
      (Operation.fetch q).run ⟨Recording.transport, clock⟩ { w with transport := w.transport.pushJson n v } =
        (.ok (.ok (some v)), { w with transport := { w.transport with requests := w.transport.requests ++ [q] } })) ∧
    (∀ (c : Config) (q : Request) (o : Outgoing), q.body = some v → c.outgoing q = .ok o →
      ∃ text, o.body = some text ∧ ∀ n, Response.json ⟨n, text⟩ = .ok v) ∧
    ∀ (style : ReferenceStyle) (second : Int) (id reference : List Char), ∀ q ∈ [Operation.creationRequest style second,
      Operation.cancelRequest id, Operation.refundRequest reference], ∃ d, q.body = some d ∧
        ∀ n, Response.json ⟨n, Json.compact d⟩ = .ok d := by
  have hreadable : Json.Readable 127 v := Json.readable_of_parse (Response.json_eq_ok_iff.mp hv)
  have hcompact (n : Nat) : Response.json ⟨n, Json.compact v⟩ = .ok v :=
    Response.json_eq_ok_iff.mpr (Json.parse_compact hreadable hint)
  refine ⟨fun e w hw => ?_, hcompact, fun clock w n q hw => ?_, fun c q o hq ho => ⟨Json.compact v, ?_, hcompact⟩,
    fun style second id reference q hq => ?_⟩
  · have hsink : w.sink.Boundless := by rw [hw]; exact ⟨rfl, rfl⟩
    refine ⟨Json.page v ++ ['\n'], ?_, ?_, fun n => ?_⟩
    · rw [Dialogue.run_present hsink]
    · rw [Dialogue.run_present hsink, World.sink_shown, hw]
      exact Utf8.decode?_encode _
    · exact Response.json_eq_ok_iff.mpr (Json.parse_page hreadable hint)
  · rw [Operation.fetch, Dialogue.run_bind]
    simp only [Dialogue.request, Dialogue.run, Recording.transport, Recording.send, Recording.pushJson, Recording.push,
      hw, List.nil_append, List.append_nil, hcompact n]
    rfl
  · rw [Config.body_of_outgoing ho, hq]
    rfl
  · simp only [List.mem_cons, List.not_mem_nil, or_false] at hq
    rcases hq with rfl | rfl | rfl
    · exact ⟨_, rfl, Fields.json_document (member_creation style second)⟩
    · exact ⟨_, rfl, Fields.json_document (List.forall_mem_nil _)⟩
    · exact ⟨_, rfl, Fields.json_document member_refund⟩

/-- A document with escapes, a key that stands twice, and the outermost integers. -/
theorem documents_read_back_nested :
    let text := "\x7b\"b\": [1, -9223372036854775808, 18446744073709551615], \"a\": 0, ".toList ++
      "\"\\u0000\\\"\": [\x7b\x7d], \"a\": \"\\ud83d\\ude00\\n\"\x7d".toList
    ∃ v, Response.json ⟨200, text⟩ = .ok v ∧ Json.Integral v ∧ Response.json ⟨200, Json.compact v⟩ = .ok v := by
  intro text
  have key : (match Response.json ⟨200, text⟩ with
    | .ok v => decide (Json.Integral v)
    | .error _ => false) = true := by decide +kernel
  split at key
  · next v hv =>
    have hint := of_decide_eq_true key
    exact ⟨v, hv, hint, (documents_read_back hv hint).2.1 200⟩
  · cases key

end PaymentDesk
