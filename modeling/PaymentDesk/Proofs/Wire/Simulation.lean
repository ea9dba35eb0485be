import PaymentDesk.Proofs.Config.Base
import PaymentDesk.Proofs.Config.Identifier
import PaymentDesk.Proofs.Dialogue.Simulation
import PaymentDesk.Proofs.Text.Utf8
import PaymentDesk.Proofs.Wire.Once

/-!
# The network behind the recording transport

Calls are made one after the other, operations and whole sessions, over a server that answers from a script
(`Served.answer`), or over the recording transport with the replies that these answers come to (`Served.reply`).

**Nothing tells the two apart** (`runAll_alike`): results, output and diagnostics are the same, and the server receives
what was recorded. Two things are asked for. The answers have a status that is neither a redirection nor one without a
body, and every request can be put on the wire: its address is not too long.
-/

namespace PaymentDesk

open Text

/-! ## Answers and replies -/

/-- What a server answers: a status, headers, and a text. -/
structure Served where
  status : Nat
  headers : List Header := []
  body : List Char
  deriving DecidableEq, Repr

namespace Served

/-- The answer on the network. -/
def answer (s : Served) : Answer := .reply s.status s.headers (Utf8.encode s.body)

/-- The reply that it stands for. -/
def reply (s : Served) : Reply :=
  if 200 ≤ s.status ∧ s.status < 300 then .ok ⟨s.status, s.body⟩ else .error (.status s.status (oneLine s.body))

/-- An ordinary status: success with a body, or an error. -/
def isOrdinary (s : Served) : Bool :=
  (200 ≤ s.status && s.status < 300 && s.status != 204 && s.status != 205) || (400 ≤ s.status && s.status < 600)

/-- What is served when a script has run out. -/
def fallback : Served where
  status := 200
  body := ['\x7b', '\x7d']

theorem conclude_eq (s : Served) : Wire.conclude s.status s.body = s.reply := by
  simp [Wire.conclude, reply, Status.isSuccess]

theorem bodyOf_eq {s : Served} (h : s.isOrdinary = true) (bytes : List UInt8) :
    Wire.bodyOf s.status bytes = bytes := by
  simp only [isOrdinary, Bool.or_eq_true, Bool.and_eq_true, decide_eq_true_eq, bne_iff_ne] at h
  rw [Wire.bodyOf, if_neg]
  simp only [Bool.or_eq_true, beq_iff_eq]
  omega

theorem redirection?_eq_none {s : Served} (h : s.isOrdinary = true) (u : Url) :
    redirection? u s.status s.headers = none := by
  simp only [isOrdinary, Bool.or_eq_true, Bool.and_eq_true, decide_eq_true_eq, bne_iff_ne] at h
  rw [redirection?, if_neg]
  rw [List.contains_iff_mem]
  simp only [List.mem_cons, List.not_mem_nil, or_false]
  omega

end Served

/-! ## One request -/

/-- The address of the request can be put on the wire. -/
def Config.isSendable (c : Config) (r : Request) : Bool :=
  match c.outgoing r with
  | .ok o => o.url.isSendable
  | .error _ => false

/-- A network and a recording with the same answers before them, and the same requests behind them. -/
structure Parallel (c : Config) (n : Network) (t : Recording) : Prop where
  ahead : ∃ rest : List Served, (∀ s ∈ rest, s.isOrdinary = true) ∧ n.script = rest.map Served.answer ∧
    t.replies = rest.map Served.reply
  behind : List.Forall₂ (fun a r => a.Carries c r) n.received t.requests

/-- A network all of whose addresses are reached. -/
def openWire (c : Config) : Wire where
  config := c
  reaches _ := true

/-- An ordinary answer ends the exchange. -/
theorem send_of_ordinary {c : Config} {r : Request} {o : Outgoing} {n : Network} {s : Served}
    (ho : c.outgoing r = .ok o) (hv : (openWire c).visits o = true) (hd : (n.deliver o).1 = s.answer)
    (hord : s.isOrdinary = true) : ((openWire c).send r n).1 = s.reply ∧
      diagnostics ((openWire c).send r n).2.1 = [] ∧ ((openWire c).send r n).2.2 = (n.deliver o).2 := by
  have he := Wire.exchange_of_stays 10 hv hd (Served.redirection?_eq_none hord o.url)
  rw [Served.bodyOf_eq hord] at he
  rw [Wire.send_of_reply (w := openWire c) ho he, Utf8.decodeLossy_encode, Served.conclude_eq]
  refine ⟨rfl, ?_, rfl⟩
  rw [List.cons_append, diagnostics_eq_nil, Wire.attempt]
  simp [Wire.record, Log.Source.isTransport]

/-- What comes next on both sides. -/
theorem Parallel.next {c : Config} {n : Network} {t : Recording} (h : Parallel c n t) (r : Request) (o : Outgoing) :
    ∃ (s : Served) (rest : List Served), s.isOrdinary = true ∧ (∀ x ∈ rest, x.isOrdinary = true) ∧
      n.deliver o = (s.answer, ⟨rest.map Served.answer, n.received ++ [Network.arrival o]⟩) ∧
      Recording.send r t = (s.reply, [], ⟨t.requests ++ [r], rest.map Served.reply⟩) := by
  obtain ⟨⟨rest, hord, hscript, hreplies⟩, -⟩ := h
  cases rest with
  | nil =>
    refine ⟨Served.fallback, [], rfl, by simp, ?_, ?_⟩
    · rw [Network.deliver, hscript]
      rfl
    · rw [Recording.send, hreplies]
      rfl
  | cons s rest =>
    refine ⟨s, rest, hord s List.mem_cons_self, fun x hx => hord x (List.mem_cons_of_mem s hx), ?_, ?_⟩
    · rw [Network.deliver, hscript]
      rfl
    · rw [Recording.send, hreplies]
      rfl

/-- Over such a network a request of the desk arrives if it can be put on the wire. -/
theorem visits_openWire {base id : List Char} {timeout : Option Nat} {c : Config} {r : Request} {o : Outgoing}
    (hc : Config.make base id timeout = .ok c) (ho : c.outgoing r = .ok o) :
    (openWire c).visits o = o.url.isSendable := by
  rw [Wire.visits, Config.isHttp_of_outgoing hc ho, Bool.true_and]
  exact Bool.and_true _

/-- **The network mirrors the recording transport** for requests that can be put on the wire. -/
theorem mirrors_openWire {base id : List Char} {timeout : Option Nat} {c : Config}
    (hc : Config.make base id timeout = .ok c) :
    Mirrors (openWire c).transport (fun r => c.isSendable r = true) (Parallel c) := by
  intro r n t hr h
  rw [Config.isSendable] at hr
  cases ho : c.outgoing r with
  | error e =>
    rw [ho] at hr
    cases hr
  | ok o =>
    rw [ho] at hr
    obtain ⟨s, rest, hs, hrest, hdeliver, hrecord⟩ := h.next r o
    obtain ⟨hreply, hquiet, hnet⟩ := send_of_ordinary ho (visits_openWire hc ho ▸ hr) (congrArg Prod.fst hdeliver) hs
    rw [hrecord]
    refine ⟨hreply, hquiet, ?_⟩
    show Parallel c ((openWire c).send r n).2.2 _
    rw [hnet, hdeliver]
    exact ⟨⟨rest, hrest, rfl, rfl⟩,
      List.rel_append h.behind (List.Forall₂.cons (Config.carries_arrival ho) List.Forall₂.nil)⟩

/-! ## Calls -/

section Calls

variable {base serviceId : List Char} {timeout : Option Nat} {c : Config} {u : Url}

/-- A request has something to send when the base address can be read. -/
theorem Config.outgoing_ok (hc : make base serviceId timeout = .ok c) (hu : c.urlFor (.get []) = .ok u)
    (r : Request) : ∃ o, c.outgoing r = .ok o := by
  obtain ⟨v, hv⟩ := urlFor_ok hc hu r
  rw [outgoing, hv]
  exact ⟨_, rfl⟩

/-- **The network simulates the recording transport**, and the other way round: calls come to the same, with the same
diagnostics, the server receives the recorded requests, and the same answers are left. -/
theorem runAll_openWire (hc : Config.make base serviceId timeout = .ok c) (hu : c.urlFor (.get []) = .ok u)
    (clock : Nat → Int) (v : Variant) (calls : List Call) (served : List Served)
    (hserved : ∀ s ∈ served, s.isOrdinary = true)
    (hsend : ∀ r ∈ (Call.runAll ⟨Recording.transport, clock⟩ v calls
        { transport := { replies := served.map Served.reply } }).2.transport.requests,
      ∀ o, c.outgoing r = .ok o → o.url.isSendable = true) :
    let http := Call.runAll ⟨(openWire c).transport, clock⟩ v calls
      { transport := { script := served.map Served.answer } }
    let memory := Call.runAll ⟨Recording.transport, clock⟩ v calls
      { transport := { replies := served.map Served.reply } }
    http.1 = memory.1 ∧ diagnostics http.2.log = diagnostics memory.2.log ∧
      List.Forall₂ (fun a r => a.Carries c r) http.2.transport.received memory.2.transport.requests ∧
      ∃ rest : List Served, http.2.transport.script = rest.map Served.answer ∧
        memory.2.transport.replies = rest.map Served.reply := by
  intro http memory
  have hstart : Alike (Parallel c) { transport := { script := served.map Served.answer } }
      { transport := { replies := served.map Served.reply } } :=
    ⟨rfl, rfl, rfl, rfl, ⟨served, hserved, rfl, rfl⟩, List.Forall₂.nil⟩
  have hgood : ∀ r ∈ memory.2.transport.requests, c.isSendable r = true := by
    intro r hr
    obtain ⟨o, ho⟩ := Config.outgoing_ok hc hu r
    rw [Config.isSendable, ho]
    exact hsend r hr o ho
  obtain ⟨hresult, halike⟩ := Call.runAll_alike (mirrors_openWire hc) calls hstart hgood
  obtain ⟨⟨rest, -, hscript, hreplies⟩, hbehind⟩ := halike.transport
  exact ⟨hresult, halike.log, hbehind, rest, hscript, hreplies⟩

/-- An identifier that is a name of its own, but too long, cannot be put on the wire. -/
theorem not_isSendable_of_long (hc : Config.make base serviceId timeout = .ok c) (hu : c.urlFor (.get []) = .ok u)
    {id : List Char} (hname : Url.isName id = true) (hlen : 65535 ≤ id.length)
    (hfree : ∀ c ∈ id, Url.isSlash true c = false ∧ Url.isControlOrSpace c = false ∧ c ≠ '?' ∧ c ≠ '#')
    {o : Outgoing} (ho : c.outgoing (.get id) = .ok o) : o.url.isSendable = false := by
  obtain ⟨p, -, hp⟩ := Config.urlFor_eq hc hu
  have hclean : Url.cleanEnd id = id := by
    refine Url.cleanEnd_eq_self (fun c hc => Url.not_isTabOrLineEnd (hfree c hc).2.1) ?_
    cases hl : id.getLast? with
    | none => rfl
    | some c => exact (hfree c (List.mem_of_getLast? hl)).2.1
  have haddr := Config.addresses_of_walk hp (r := .get id) rfl (hclean.symm ▸ fun c hc => (hfree c hc).2.2)
  rw [show (Request.get id).path = id from rfl, hclean, fields_eq_singleton fun c hc => (hfree c hc).1,
    Url.walk_name hname] at haddr
  obtain ⟨v, hv, hpath, -⟩ := haddr
  obtain ⟨v', hv', htarget⟩ := (Config.carries_arrival ho).target
  rw [hv] at hv'
  cases hv'
  have hencode := Url.length_le_encode Url.Percent.inPath id
  have hsegment := Url.length_le_target hpath
  have htext := o.url.length_target_le
  rw [show o.url.target = v.target from htarget] at htext
  rw [Url.isSendable, Bool.and_eq_false_iff]
  exact Or.inl (decide_eq_false (by omega))

/-- Calls and answers of every kind: an operation of two requests, a search, and a session that fetches and quits. -/
def mixedCalls : List Call :=
  [.operation (.cancel "RC-1".toList), .operation (.search { amount := some 5 }),
    .session (byteLines (Utf8.encode "1\nRC-2\nq\n".toList)) {}]

def mixedServed : List Served :=
  [⟨200, [], "[1]".toList⟩, ⟨404, [("location".toList, "/".toList)], "not\n found".toList⟩, ⟨201, [], "no document".toList⟩]

theorem runAll_openWire_mixed :
    let http := Call.runAll ⟨(openWire {}).transport, fun _ => 0⟩ .current mixedCalls
      { transport := { script := mixedServed.map Served.answer } }
    let memory := Call.runAll ⟨Recording.transport, fun _ => 0⟩ .current mixedCalls
      { transport := { replies := mixedServed.map Served.reply } }
    (∀ r ∈ memory.2.transport.requests, ({} : Config).isSendable r = true) ∧
      memory.2.transport.requests.map (·.path) =
        ["RC-1/cancel".toList, "RC-1".toList, [], "RC-2".toList] ∧
      http.1 = memory.1 ∧ diagnostics http.2.log = diagnostics memory.2.log ∧
      List.Forall₂ (fun a r => a.Carries {} r) http.2.transport.received memory.2.transport.requests ∧
      ∃ rest : List Served, http.2.transport.script = rest.map Served.answer ∧
        memory.2.transport.replies = rest.map Served.reply := by
  intro http memory
  have hsend : ∀ r ∈ memory.2.transport.requests, ({} : Config).isSendable r = true := by decide +kernel
  have hc : Config.make "http://localhost:8181/payments/".toList "divorce".toList none = .ok {} := by decide +kernel
  have hu : ({} : Config).urlFor (.get []) = .ok Config.deskUrl := by decide +kernel
  refine ⟨hsend, by decide +kernel, runAll_openWire hc hu (fun _ => 0) .current mixedCalls mixedServed
    (by decide) fun r hr o ho => ?_⟩
  have := hsend r hr
  rwa [Config.isSendable, ho] at this

/-- A request that cannot be put on the wire is an error of the transport. -/
theorem send_of_not_isSendable {w : Wire} {r : Request} {o : Outgoing} (ho : w.config.outgoing r = .ok o)
    (hs : o.url.isSendable = false) (n : Network) : ∃ reason, (w.send r n).1 = .error (.transport reason) := by
  have hv : w.visits o = false := by rw [Wire.visits, hs, Bool.and_false]; rfl
  obtain ⟨f, records, he⟩ := Wire.exchange_of_not_visits 10 n hv
  rw [Wire.send_of_fault ho he]
  exact ⟨f.message, rfl⟩

/-- An identifier of 65535 letters. -/
def longId : List Char := List.replicate 65535 'a'

/-- A fetch with an identifier of that length is answered from memory, and is an error over the network. -/
theorem runAll_openWire_long :
    let http := Call.runAll ⟨(openWire {}).transport, fun _ => 0⟩ .current [.operation (.get longId)]
      { transport := {} }
    let memory := Call.runAll ⟨Recording.transport, fun _ => 0⟩ .current [.operation (.get longId)]
      { transport := {} }
    http.1 ≠ memory.1 := by
  have hc : Config.make "http://localhost:8181/payments/".toList "divorce".toList none = .ok {} := by decide +kernel
  have hu : ({} : Config).urlFor (.get []) = .ok Config.deskUrl := by decide +kernel
  have hfree : ∀ c ∈ longId, Url.isSlash true c = false ∧ Url.isControlOrSpace c = false ∧ c ≠ '?' ∧ c ≠ '#' := by
    intro c hmem
    rw [(List.mem_replicate.mp hmem).2]
    decide
  obtain ⟨o, ho⟩ := Config.outgoing_ok hc hu (.get longId)
  have hlong : 65535 ≤ longId.length := (List.length_replicate).ge
  have hname : Url.isName longId = true := by
    rw [longId, List.replicate_succ]
    rfl
  obtain ⟨reason, hsend⟩ := send_of_not_isSendable (w := openWire {}) ho
    (not_isSendable_of_long hc hu hname hlong hfree ho) {}
  have hhttp := (Operation.run_fetch ⟨(openWire {}).transport, fun _ => 0⟩ { transport := {} } (.get longId)).1
  have hmemory := (Operation.run_fetch ⟨Recording.transport, fun _ => 0⟩ { transport := {} } (.get longId)).1
  rw [show ((openWire {}).transport.send (.get longId) {}).1 = .error (.transport reason) from hsend] at hhttp
  rw [show (Recording.transport.send (.get longId) {}).1 = Recording.fallback from rfl] at hmemory
  intro http memory heq
  have heq : Call.Result.outcome _ = Call.Result.outcome _ := (List.cons.inj heq).1
  have heq := Except.ok.inj (hhttp.symm.trans ((Call.Result.outcome.inj heq).trans hmemory))
  -- A reply from memory may fail to be a document, but not to arrive.
  have hjson : ((Response.json ⟨200, ['\x7b', '\x7d']⟩).map some) = .error (.transport reason) := heq.symm
  rw [Response.json] at hjson
  cases hp : Json.parse ['\x7b', '\x7d'] <;> rw [hp] at hjson <;> cases hjson

end Calls

end PaymentDesk
