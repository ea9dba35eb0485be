import Mathlib.Data.List.Forall2
import PaymentDesk.Operation
import PaymentDesk.Proofs.Wire.Arrivals

/-!
# Requests that arrive once

Sending a request is meant to make one request on the wire, and an order on a payment is meant to be reported as
accepted only if the server accepted the order itself (`Wire.Honest`). A client that follows redirections does neither:
the server receives a second request, which may be a plain fetch without a body, and the answer to that one is reported.

**`Wire.honest_iff`: redirections are all that stands in the way.** A request is made honestly exactly when it is not
redirected to an http(s) URL that can be reached (`Wire.Redirected`), and so are the requests of a cancellation and of a
refund.
-/

namespace PaymentDesk

/-- The arrivals show the first few of the requests, one arrival each, as they were meant. -/
def Arrival.Show (c : Config) (rs : List Request) (as : List Arrival) : Prop :=
  ∃ rs', rs' <+: rs ∧ List.Forall₂ (fun a r => a.Carries c r) as rs'

theorem Arrival.Show.length_le {c : Config} {rs : List Request} {as : List Arrival} (h : Show c rs as) :
    as.length ≤ rs.length := by
  obtain ⟨rs', hpre, hall⟩ := h
  rw [hall.length_eq]
  exact hpre.length_le

theorem Arrival.show_nil (c : Config) (rs : List Request) : Show c rs [] :=
  ⟨[], List.nil_prefix, List.Forall₂.nil⟩

theorem Arrival.Show.cons {c : Config} {r : Request} {rs : List Request} {a : Arrival} {as : List Arrival}
    (ha : a.Carries c r) (h : Show c rs as) : Show c (r :: rs) (a :: as) := by
  obtain ⟨rs', hpre, hall⟩ := h
  exact ⟨r :: rs', List.prefix_cons_inj r |>.mpr hpre, List.Forall₂.cons ha hall⟩

theorem Arrival.Show.uncons {c : Config} {r : Request} {rs : List Request} {a : Arrival} {as : List Arrival}
    (h : Show c (r :: rs) (a :: as)) : a.Carries c r ∧ Show c rs as := by
  obtain ⟨rs', hpre, hall⟩ := h
  cases hall with
  | cons ha hall =>
    obtain ⟨rfl, htail⟩ := List.cons_prefix_cons.mp hpre
    exact ⟨ha, _, htail, hall⟩

/-! ## Orders on a payment -/

namespace Operation

variable {σ : Type} (e : Setting σ) (v : Variant) (id : List Char) (s : World σ)

/-- Fetching comes to the document in the reply. -/
theorem run_fetch (r : Request) : ((fetch r).run e s).1 =
      .ok ((e.transport.send r s.transport).1.bind fun response => response.json.map some) ∧
    ((fetch r).run e s).2.transport = (e.transport.send r s.transport).2.2 := by
  rcases h : e.transport.send r s.transport with ⟨err | response, records, s'⟩ <;>
    simp [fetch, Dialogue.run_bind, Dialogue.request, Dialogue.run, h, Except.bind]

/-- A refund comes to what its request comes to. -/
theorem run_refund : (((refund id).perform v).run e s).1 =
      .ok ((e.transport.send (refundRequest id) s.transport).1.map fun _ => none) ∧
    (((refund id).perform v).run e s).2.transport = (e.transport.send (refundRequest id) s.transport).2.2 := by
  rcases h : e.transport.send (refundRequest id) s.transport with ⟨err | response, records, s'⟩ <;>
    simp [perform, Dialogue.run_bind, Dialogue.request, Dialogue.run, h, Dialogue.log, Except.map]

/-- A refused cancellation is over. -/
theorem run_cancel_of_error {err : Error} (h : (e.transport.send (cancelRequest id) s.transport).1 = .error err) :
    (((cancel id).perform v).run e s).1 = .ok (.error err) ∧
      (((cancel id).perform v).run e s).2.transport = (e.transport.send (cancelRequest id) s.transport).2.2 := by
  rcases hs : e.transport.send (cancelRequest id) s.transport with ⟨reply, records, s'⟩
  rw [hs] at h
  subst h
  simp [perform, Dialogue.run_bind, Dialogue.request, Dialogue.run, hs]

/-- After an accepted cancellation the payment is fetched. -/
theorem run_cancel_of_ok {response : Response}
    (h : (e.transport.send (cancelRequest id) s.transport).1 = .ok response) :
    (((cancel id).perform v).run e s).2.transport =
      (e.transport.send (.get id) (e.transport.send (cancelRequest id) s.transport).2.2).2.2 := by
  rcases hs : e.transport.send (cancelRequest id) s.transport with ⟨reply, records, s'⟩
  rw [hs] at h
  subst h
  simp [perform, Dialogue.run_bind, Dialogue.request, Dialogue.run, hs, Dialogue.log, (run_fetch e _ _).2]

end Operation

namespace Wire

open Arrival (Show)

variable {w : Wire} {r : Request} {o o' : Outgoing} {n : Network}

/-! ## Redirected requests -/

/-- The server sends the client on to a URL where it gets to: one over http(s) that can be reached. -/
def Redirected (w : Wire) (r : Request) (n : Network) : Prop :=
  ∃ o o', w.config.outgoing r = .ok o ∧ w.visits o = true ∧ onward o n = some o' ∧ w.visits o' = true

/-- The server answers the request itself with success. -/
def Accepted (w : Wire) (r : Request) (n : Network) : Prop :=
  ∃ o status headers body, w.config.outgoing r = .ok o ∧ w.visits o = true ∧
    (n.deliver o).1 = .reply status headers body ∧ Status.isSuccess status = true

/-- A request that is not redirected arrives at most once. -/
theorem arriving_of_not_redirected (h : ¬ w.Redirected r n) : w.arriving r n = [] ∨
    ∃ a, w.arriving r n = [a] ∧ a.Carries w.config r := by
  rw [arriving]
  cases ho : w.config.outgoing r with
  | error e => exact Or.inl rfl
  | ok o =>
    simp only
    cases hv : w.visits o with
    | false => exact Or.inl (arrivals_eq_nil.mpr hv)
    | true =>
      refine Or.inr ⟨Network.arrival o, ?_, Config.carries_arrival ho⟩
      rw [arrivals, if_pos hv]
      cases hon : onward o n with
      | none => rfl
      | some o' =>
        have hv' : w.visits o' = false := Bool.eq_false_iff.mpr fun hv' => h ⟨o, o', ho, hv, hon, hv'⟩
        rw [Option.map_some, arrivals_eq_nil.mpr hv']
        rfl

theorem values_filter (name : List Char) (hs : List Header) :
    (((hs.filter (·.1 != name)).map fun h => (h.1, Network.trimValue h.2)).filter (·.1 == name)).map (·.2) = [] := by
  rw [List.map_eq_nil_iff, List.filter_eq_nil_iff]
  intro h hmem
  obtain ⟨h', hmem', rfl⟩ := List.mem_map.mp hmem
  simpa using (List.mem_filter.mp hmem').2

/-- A redirected request is either fetched without naming the type of a body, or made again with its own method. -/
theorem onward_method (h : onward o n = some o') :
    o'.method = o.method ∨ (Network.arrival o').values "content-type".toList = [] := by
  obtain ⟨status, headers, body, target, -, -, rfl⟩ := of_onward h
  rw [Outgoing.redirect]
  split
  · right
    exact values_filter _ _
  · exact Or.inl rfl

/-- A redirected request arrives more than once. -/
theorem arriving_of_redirected (h : w.Redirected r n) : ∃ a b as, w.arriving r n = a :: b :: as ∧
    (b.method = r.method ∨ b.values "content-type".toList = []) := by
  obtain ⟨o, o', ho, hv, hon, hv'⟩ := h
  have hm : o.method = r.method := (Config.carries_arrival ho).method
  refine ⟨Network.arrival o, Network.arrival o', ?_⟩
  rw [arriving, ho]
  simp only
  rw [arrivals, if_pos hv, hon, Option.map_some, Option.getD_some, arrivals, if_pos hv']
  exact ⟨_, rfl, hm ▸ onward_method hon⟩

/-- A reply that did not come by a redirection is the answer to the request itself. -/
theorem deliver_of_exchange {left status : Nat} {body : List UInt8} {records : List Log.Record} {n' : Network}
    (h : w.visits o = true → ∀ o', onward o n = some o' → w.visits o' = false)
    (he : w.exchange (left + 1) o n = (.ok (status, body), records, n')) :
    w.visits o = true ∧ ∃ headers bytes, (n.deliver o).1 = .reply status headers bytes := by
  cases hv : w.visits o with
  | false =>
    obtain ⟨f, records', he'⟩ := exchange_of_not_visits (left + 1) n hv
    rw [he] at he'
    cases he'
  | true =>
    refine ⟨rfl, ?_⟩
    cases hon : onward o n with
    | none =>
      rw [exchange_of_settled _ hv hon] at he
      obtain ⟨headers, bytes, ha, -⟩ := of_settle (congrArg Prod.fst he)
      exact ⟨headers, bytes, ha⟩
    | some o' =>
      obtain ⟨records', he'⟩ := exchange_of_onward left hv hon
      obtain ⟨f, records'', hf⟩ := exchange_of_not_visits left (n.deliver o).2 (h hv o' hon)
      rw [hf, he] at he'
      cases he'

/-- A request that is not redirected is reported as accepted only if it was. -/
theorem accepted_of_ok {response : Response} (h : ¬ w.Redirected r n) (hok : (w.send r n).1 = .ok response) :
    w.Accepted r n := by
  obtain ⟨o, status, body, records, n', ho, he, hs⟩ := exchange_of_send hok
  have hstay : w.visits o = true → ∀ o', onward o n = some o' → w.visits o' = false := fun hv o' hon =>
    Bool.eq_false_iff.mpr fun hv' => h ⟨o, o', ho, hv, hon, hv'⟩
  obtain ⟨hv, headers, bytes, hd⟩ := deliver_of_exchange hstay he
  exact ⟨o, status, headers, bytes, ho, hv, hd, hs⟩

/-! ## Honest requests -/

/-- Requests are made honestly from one state of the network to the next: they arrive in order, each at most once and as
it was meant, and success is reported only if the server accepted the first of them. -/
structure Honest (w : Wire) (rs : List Request) (n n' : Network) (success : Prop) : Prop where
  shown : Show w.config rs (n.since n')
  accepted : success → ∀ r ∈ rs.head?, w.Accepted r n

/-- An operation makes its requests honestly. -/
def HonestRun (w : Wire) (clock : Nat → Int) (v : Variant) (op : Operation) (rs : List Request)
    (s : World Network) : Prop :=
  w.Honest rs s.transport ((op.perform v).run ⟨w.transport, clock⟩ s).2.transport
    (∃ document, ((op.perform v).run ⟨w.transport, clock⟩ s).1 = .ok (.ok document))

theorem since_send (w : Wire) (r : Request) (n : Network) : n.since (w.send r n).2.2 = w.arriving r n :=
  Network.since_eq (w.received_send r n)

theorem show_arriving (rs : List Request) (h : ¬ w.Redirected r n) : Show w.config (r :: rs) (w.arriving r n) := by
  rcases arriving_of_not_redirected h with hnil | ⟨a, hone, ha⟩
  · rw [hnil]
    exact Arrival.show_nil _ _
  · rw [hone]
    exact (Arrival.show_nil _ _).cons ha

theorem send_honest_iff (w : Wire) (r : Request) (n : Network) :
    w.Honest [r] n (w.send r n).2.2 (∃ response, (w.send r n).1 = .ok response) ↔ ¬ w.Redirected r n := by
  constructor
  · rintro ⟨hshow, -⟩ hred
    obtain ⟨a, b, as, has, -⟩ := arriving_of_redirected hred
    have := hshow.length_le
    rw [since_send, has] at this
    simp at this
  · intro h
    refine ⟨by rw [since_send]; exact show_arriving [] h, ?_⟩
    rintro ⟨response, hok⟩ r' hr'
    cases hr'
    exact accepted_of_ok h hok

section Orders

variable (w : Wire) (clock : Nat → Int) (v : Variant) (id : List Char) (s : World Network)

theorem refund_honest_iff : w.HonestRun clock v (.refund id) [Operation.refundRequest id] s ↔
    ¬ w.Redirected (Operation.refundRequest id) s.transport := by
  obtain ⟨houtcome, hnet⟩ := Operation.run_refund ⟨w.transport, clock⟩ v id s
  rw [HonestRun, houtcome, hnet]
  rw [← send_honest_iff]
  have hsuccess (reply : Reply) : (∃ document : Option Json.Value, (Except.ok (reply.map fun _ => none) :
      Except Error Operation.Outcome) = .ok (.ok document)) ↔ ∃ response, reply = .ok response := by
    cases reply <;> simp [Except.map]
  rw [hsuccess]
  exact Iff.rfl

/-- The first request of a cancellation has arrived when the second is made. -/
theorem arriving_ne_nil (h : w.Accepted (Operation.cancelRequest id) s.transport) :
    w.arriving (Operation.cancelRequest id) s.transport ≠ [] := by
  obtain ⟨o, -, -, -, ho, hv, -, -⟩ := h
  rw [arriving, ho]
  exact fun hnil => by simp [arrivals_eq_nil.mp hnil] at hv

/-- What a redirected cancellation turns into shows neither the cancellation once more nor the payment being fetched. -/
theorem not_redirected_of_show {as : List Arrival} {n : Network}
    (h : Show w.config [Operation.cancelRequest id, .get id] (w.arriving (Operation.cancelRequest id) n ++ as)) :
    ¬ w.Redirected (Operation.cancelRequest id) n := by
  intro hred
  obtain ⟨a, b, bs, has, hb⟩ := arriving_of_redirected hred
  rw [has] at h
  have hget : b.Carries w.config (.get id) := h.uncons.2.uncons.1
  rcases hb with hpost | hnone
  · cases hget.method.symm.trans hpost
  · cases hget.contentType.symm.trans hnone

/-- A cancellation that is refused is its own request and nothing more. -/
theorem cancel_honest_iff_of_error {err : Error}
    (hsent : (w.send (Operation.cancelRequest id) s.transport).1 = .error err) :
    w.HonestRun clock v (.cancel id) [Operation.cancelRequest id, .get id] s ↔
      ¬ w.Redirected (Operation.cancelRequest id) s.transport := by
  obtain ⟨houtcome, hnet⟩ := Operation.run_cancel_of_error ⟨w.transport, clock⟩ v id s hsent
  have hsince := w.since_send (Operation.cancelRequest id) s.transport
  rw [HonestRun, houtcome, hnet]
  constructor
  · intro h
    have hshow : Show w.config _ (s.transport.since (w.send (Operation.cancelRequest id) s.transport).2.2) := h.shown
    rw [hsince, ← List.append_nil (w.arriving _ _)] at hshow
    exact w.not_redirected_of_show id hshow
  · intro hred
    refine ⟨?_, fun ⟨document, h⟩ => by cases h⟩
    show Show w.config _ (s.transport.since (w.send (Operation.cancelRequest id) s.transport).2.2)
    rw [hsince]
    exact show_arriving _ hred

/-- After a cancellation that is accepted the payment is fetched. -/
theorem cancel_honest_iff_of_ok {response : Response}
    (hsent : (w.send (Operation.cancelRequest id) s.transport).1 = .ok response) :
    w.HonestRun clock v (.cancel id) [Operation.cancelRequest id, .get id] s ↔
      ¬ w.Redirected (Operation.cancelRequest id) s.transport ∧
        ¬ w.Redirected (.get id) (w.send (Operation.cancelRequest id) s.transport).2.2 := by
  have hnet := Operation.run_cancel_of_ok ⟨w.transport, clock⟩ v id s hsent
  have hsince : s.transport.since (w.send (.get id) (w.send (Operation.cancelRequest id) s.transport).2.2).2.2 =
      w.arriving (Operation.cancelRequest id) s.transport ++
        w.arriving (.get id) (w.send (Operation.cancelRequest id) s.transport).2.2 :=
    Network.since_eq (by rw [received_send, received_send, List.append_assoc])
  rw [HonestRun, hnet]
  constructor
  · intro h
    have hshow := hsince ▸ h.shown
    have hred := w.not_redirected_of_show id hshow
    refine ⟨hred, fun hget => ?_⟩
    -- The cancellation arrived once and the fetch more than once: that is more than two arrivals.
    have hfirst := List.length_pos_of_ne_nil (w.arriving_ne_nil id s (accepted_of_ok hred hsent))
    obtain ⟨a, b, bs, has, -⟩ := arriving_of_redirected hget
    have hlen := hshow.length_le
    rw [has, List.length_append] at hlen
    simp only [List.length_cons, List.length_nil] at hlen
    omega
  · rintro ⟨hred, hget⟩
    have haccepted := accepted_of_ok hred hsent
    refine ⟨?_, fun _ r hr => ?_⟩
    · rcases arriving_of_not_redirected hred with hnil | ⟨a, hone, ha⟩
      · exact absurd hnil (w.arriving_ne_nil id s haccepted)
      · show Show w.config _ (s.transport.since _)
        rw [Wire.transport, hsince, hone]
        exact (show_arriving [] hget).cons ha
    · cases hr
      exact haccepted

theorem cancel_honest_iff : w.HonestRun clock v (.cancel id) [Operation.cancelRequest id, .get id] s ↔
    ¬ w.Redirected (Operation.cancelRequest id) s.transport ∧
      ∀ response, (w.send (Operation.cancelRequest id) s.transport).1 = .ok response →
        ¬ w.Redirected (.get id) (w.send (Operation.cancelRequest id) s.transport).2.2 := by
  rcases hsent : (w.send (Operation.cancelRequest id) s.transport).1 with err | response
  · rw [w.cancel_honest_iff_of_error clock v id s hsent]
    exact ⟨fun h => ⟨h, fun response hok => by cases hok⟩, fun h => h.1⟩
  · rw [w.cancel_honest_iff_of_ok clock v id s hsent]
    exact ⟨fun h => ⟨h.1, fun _ _ => h.2⟩, fun h => ⟨h.1, h.2 response rfl⟩⟩

/-- The order to cancel carries an empty object. -/
example : (Operation.cancelRequest id).body.map Json.compact = some ['\x7b', '\x7d'] := rfl

/-- **Redirections are all that stands in the way.** Sending a request, cancelling and refunding are honest exactly when
no request of theirs is redirected to an http(s) URL that can be reached. -/
theorem honest_iff (w : Wire) :
    (∀ r n, w.Honest [r] n (w.send r n).2.2 (∃ response, (w.send r n).1 = .ok response) ↔ ¬ w.Redirected r n) ∧
    ∀ clock v id s,
      (w.HonestRun clock v (.refund id) [Operation.refundRequest id] s ↔
        ¬ w.Redirected (Operation.refundRequest id) s.transport) ∧
      (w.HonestRun clock v (.cancel id) [Operation.cancelRequest id, .get id] s ↔
        ¬ w.Redirected (Operation.cancelRequest id) s.transport ∧
          ∀ response, (w.send (Operation.cancelRequest id) s.transport).1 = .ok response →
            ¬ w.Redirected (.get id) (w.send (Operation.cancelRequest id) s.transport).2.2) :=
  ⟨w.send_honest_iff, fun clock v id s => ⟨w.refund_honest_iff clock v id s, w.cancel_honest_iff clock v id s⟩⟩

/-- A server that moves every refund elsewhere. -/
def movingNetwork : Network where
  script := [.reply 302 [("location".toList, "/moved".toList)] []]

/-- A refund that was moved elsewhere is reported as accepted once a plain fetch from there succeeds. -/
theorem refund_moved :
    let wire : Wire := ⟨{}, fun _ => true⟩
    let run := ((Operation.refund "RC-1".toList).perform .current).run ⟨wire.transport, fun _ => 0⟩
      { transport := movingNetwork }
    run.1 = .ok (.ok none) ∧
      run.2.transport.received.map (fun a => (a.method, a.target, a.body.length)) =
        [(.post, "/payments/RC-1/refunds".toList, 45), (.get, "/moved".toList, 0)] ∧
      ¬ wire.HonestRun (fun _ => 0) .current (.refund "RC-1".toList) [Operation.refundRequest "RC-1".toList]
        { transport := movingNetwork } := by
  intro wire run
  have hreply : (wire.send (Operation.refundRequest "RC-1".toList) movingNetwork).1 =
      .ok ⟨200, ['\x7b', '\x7d']⟩ := by decide +kernel
  obtain ⟨houtcome, -⟩ := Operation.run_refund ⟨wire.transport, fun _ => 0⟩ .current "RC-1".toList
    { transport := movingNetwork }
  refine ⟨houtcome.trans ?_, by decide +kernel, fun h => ?_⟩
  · show Except.ok ((wire.send (Operation.refundRequest "RC-1".toList) movingNetwork).1.map _) = _
    rw [hreply]
    rfl
  have := h.shown.length_le
  revert this
  decide +kernel

end Orders

end Wire

end PaymentDesk
