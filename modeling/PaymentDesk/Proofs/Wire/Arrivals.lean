import PaymentDesk.Wire.Exchange

/-!
# What a server receives

A request arrives when its address can be sent to and reaches the server, and every redirection that is followed makes
it arrive once more (`Wire.arrivals`, `Wire.received_send`). A redirection to another place than an http(s) URL is
refused (`Wire.exchange_refused`). **The first time a request arrives as it was meant** (`Config.carries_arrival`): with
its own method, target and body, and with both fixed headers.
-/

namespace PaymentDesk

open Text

/-! ## Arrivals -/

/-- The values of a header. -/
def Arrival.values (a : Arrival) (name : List Char) : List (List Char) :=
  (a.headers.filter (·.1 == name)).map (·.2)

/-- An arrival that shows a request as it was meant. -/
structure Arrival.Carries (c : Config) (r : Request) (a : Arrival) : Prop where
  method : a.method = r.method
  target : ∃ u, c.urlFor r = .ok u ∧ a.target = u.target
  body : a.body = (r.body.map Json.compact).getD []
  contentType : a.values "content-type".toList = ["application/json".toList]
  serviceId : a.values "service_id".toList = [Network.trimValue c.serviceId]

/-- What a server has received since then. -/
def Network.since (n n' : Network) : List Arrival := n'.received.drop n.received.length

theorem Network.since_eq {n n' : Network} {as : List Arrival} (h : n'.received = n.received ++ as) :
    n.since n' = as := by
  rw [since, h, List.drop_left]

@[simp] theorem Network.received_deliver (o : Outgoing) (n : Network) :
    (n.deliver o).2.received = n.received ++ [arrival o] := by
  rw [deliver]
  split <;> rfl

/-- Taking the user out of a URL leaves what is asked for. -/
theorem Url.target_of_takeUserInfo? {u v : Url} {user : List Char} {password : Option (List Char)}
    (h : u.takeUserInfo? = some (user, password, v)) : v.target = u.target := by
  simp only [takeUserInfo?] at h
  split at h
  · cases h
  split at h
  · cases h
  split at h
  · cases h
  · cases h
    rfl

/-- What is sent for a request arrives as it was meant. -/
theorem Config.carries_arrival {c : Config} {r : Request} {o : Outgoing} (h : c.outgoing r = .ok o) :
    (Network.arrival o).Carries c r := by
  rw [outgoing] at h
  cases hu : c.urlFor r with
  | error e => rw [hu] at h; cases h
  | ok u =>
    rw [hu] at h
    simp only [Except.map, Except.ok.injEq] at h
    cases ht : u.takeUserInfo? with
    | none =>
      rw [ht] at h
      subst h
      exact ⟨rfl, ⟨u, hu, rfl⟩, rfl, rfl, rfl⟩
    | some t =>
      obtain ⟨user, password, bare⟩ := t
      rw [ht] at h
      subst h
      exact ⟨rfl, ⟨u, hu, Url.target_of_takeUserInfo? ht⟩, rfl, rfl, rfl⟩

/-! ## Sending -/

/-- The URL that a fault is about. -/
def WireFault.url : WireFault → Url
  | address u => u
  | connection u => u
  | redirections u => u

namespace Wire

variable {w : Wire} {r : Request} {o o' : Outgoing} {n : Network}

/-- The request gets to the server. -/
def visits (w : Wire) (o : Outgoing) : Bool := Config.isHttp o.url && o.url.isSendable && w.reaches o.url

/-- What the answer of the server turns a request into, if it redirects to a URL. -/
def onward (o : Outgoing) (n : Network) : Option Outgoing :=
  match (n.deliver o).1 with
  | .reply status headers _ =>
    match redirection? o.url status headers with
    | some (.ok target) => some (o.redirect status target)
    | _ => none
  | _ => none

/-- What an answer that is not followed comes to. -/
def settle (u : Url) : Answer → Except WireFault (Nat × List UInt8)
  | .reply status headers body =>
    match redirection? u status headers with
    | some _ => .error (.address u)
    | none => .ok (status, bodyOf status body)
  | _ => .error (.connection u)

/-- A request that goes on was sent to the place that the reply names. -/
theorem of_onward (h : onward o n = some o') : ∃ status headers body target,
    n.deliver o = (.reply status headers body, (n.deliver o).2) ∧
      redirection? o.url status headers = some (.ok target) ∧ o' = o.redirect status target := by
  rw [onward] at h
  split at h
  · next status headers body hd =>
    split at h
    · next target ht => exact ⟨status, headers, body, target, Prod.ext hd rfl, ht, (Option.some.inj h).symm⟩
    · cases h
  · cases h

/-- A reply that is left as it is does not redirect. -/
theorem of_settle {u : Url} {answer : Answer} {status : Nat} {bytes : List UInt8}
    (h : settle u answer = .ok (status, bytes)) : ∃ headers body, answer = .reply status headers body ∧
      redirection? u status headers = none := by
  cases answer with
  | reply s headers body =>
    rw [settle] at h
    split at h
    · cases h
    · next hnone =>
      cases h
      exact ⟨headers, body, rfl, hnone⟩
  | drop => cases h
  | stall => cases h

/-- A request is only ever sent to an http(s) URL that fits into it. -/
theorem isSendable_of_visits (h : w.visits o = true) :
    (Config.isHttp o.url && o.url.isSendable) = true ∧ w.reaches o.url = true :=
  Bool.and_eq_true _ _ |>.mp h

/-! ### One exchange -/

section Exchange

variable (left : Nat)

/-- An exchange that does not get to the server. -/
theorem exchange_of_not_visits (n : Network) (h : w.visits o = false) :
    ∃ f records, w.exchange left o n = (.error f, records, n) := by
  rw [visits, Bool.and_eq_false_iff] at h
  rw [exchange]
  by_cases hs : (Config.isHttp o.url && o.url.isSendable) = true
  · have hr := h.resolve_left (by simp [hs])
    exact ⟨_, _, by rw [hs, hr]; rfl⟩
  · rw [Bool.not_eq_true] at hs
    exact ⟨_, _, by rw [hs]; rfl⟩

/-- An exchange whose first answer is not followed. -/
theorem exchange_of_settled (h : w.visits o = true) (ho : onward o n = none) :
    w.exchange left o n = (settle o.url (n.deliver o).1, attempt o.url, (n.deliver o).2) := by
  obtain ⟨hs, hr⟩ := isSendable_of_visits h
  rcases hd : n.deliver o with ⟨a, n'⟩
  rw [onward, hd] at ho
  rw [exchange, hs, hr, hd]
  cases a with
  | reply status headers body =>
    simp only at ho
    rcases ht : redirection? o.url status headers with _ | ⟨f | target⟩
    · simp [ht, settle]
    · simp [ht, settle]
    · rw [ht] at ho
      cases ho
  | drop => rfl
  | stall => rfl

/-- An exchange whose first answer is a reply that does not redirect. -/
theorem exchange_of_stays {status : Nat} {headers : List Header} {body : List UInt8} (h : w.visits o = true)
    (reply : (n.deliver o).1 = .reply status headers body) (stays : redirection? o.url status headers = none) :
    w.exchange left o n = (.ok (status, bodyOf status body), attempt o.url, (n.deliver o).2) := by
  have ho : onward o n = none := by
    rw [onward, reply]
    simp only [stays]
  rw [exchange_of_settled left h ho, reply]
  simp only [settle, stays]

/-- A location with a space in it leads nowhere. -/
example :
    let sent := (Wire.mk {} fun _ => true).send (.get []) ⟨[.reply 302 [("location".toList, "/a b".toList)] []], []⟩
    (match sent.1 with | .ok _ => [] | .error err => err.message) = "Service returned HTTP 302".toList := by
  decide +kernel

/-- An exchange whose first answer redirects. -/
theorem exchange_followed (h : w.visits o = true) (ho : onward o n = some o') : w.exchange (left + 1) o n =
    ((w.exchange left o' (n.deliver o).2).1, attempt o.url ++ (w.exchange left o' (n.deliver o).2).2.1,
      (w.exchange left o' (n.deliver o).2).2.2) := by
  obtain ⟨hs, hr⟩ := isSendable_of_visits h
  obtain ⟨status, headers, body, target, hd, ht, rfl⟩ := of_onward ho
  rw [exchange, hs, hr, hd]
  simp [ht]

theorem exchange_of_onward (h : w.visits o = true) (ho : onward o n = some o') :
    ∃ records, w.exchange (left + 1) o n =
      ((w.exchange left o' (n.deliver o).2).1, records ++ (w.exchange left o' (n.deliver o).2).2.1,
        (w.exchange left o' (n.deliver o).2).2.2) :=
  ⟨attempt o.url, exchange_followed left h ho⟩

/-- An exchange whose first answer redirects once too often. -/
theorem exchange_zero_of_onward (h : w.visits o = true) (ho : onward o n = some o') :
    w.exchange 0 o n = (.error (.redirections o.url), attempt o.url, (n.deliver o).2) := by
  obtain ⟨hs, hr⟩ := isSendable_of_visits h
  obtain ⟨status, headers, body, target, hd, ht, rfl⟩ := of_onward ho
  rw [exchange, hs, hr, hd]
  simp [ht]

/-- **An exchange that is redirected elsewhere than to an http(s) URL is over**, and nothing is sent there. -/
theorem exchange_refused (h : w.visits o = true) (ho : onward o n = some o') (hscheme : Config.isHttp o'.url = false) :
    w.exchange (left + 1) o n = (.error (.address o'.url), attempt o.url, (n.deliver o).2) := by
  have hrest : w.exchange left o' (n.deliver o).2 = (.error (.address o'.url), [], (n.deliver o).2) := by
    rw [exchange, hscheme]
    rfl
  rw [exchange_followed left h ho, hrest, List.append_nil]

/-- A file server is not asked for anything. -/
example :
    let sent := (Wire.mk {} fun _ => true).send (.get [])
      ⟨[.reply 302 [("location".toList, "ftp://localhost/x".toList)] []], []⟩
    (match sent.1 with | .ok _ => [] | .error err => err.message) =
        "Transport error: builder error for url (ftp://localhost/x)".toList ∧
      sent.2.2.received.map (·.target) = ["/payments/".toList] := by
  decide +kernel

end Exchange

/-- **The ways of an exchange**, to what it comes and with which records: it does not get to the server, it ends with
the first answer, it would be redirected once too often, or it is redirected and goes on from there. -/
inductive Exchanged (w : Wire) :
    Nat → Outgoing → Network → Except WireFault (Nat × List UInt8) → List Log.Record → Prop
  | astray {left : Nat} {o : Outgoing} {n : Network} {f : WireFault} {records : List Log.Record}
      (own : f.url = o.url) (recorded : records ⊆ attempt o.url) : Exchanged w left o n (.error f) records
  | settled {left : Nat} {o : Outgoing} {n : Network} (visits : w.visits o = true) (stays : onward o n = none) :
      Exchanged w left o n (settle o.url (n.deliver o).1) (attempt o.url)
  | exhausted {o o' : Outgoing} {n : Network} (visits : w.visits o = true) (leaves : onward o n = some o') :
      Exchanged w 0 o n (.error (.redirections o.url)) (attempt o.url)
  | followed {left : Nat} {o o' : Outgoing} {n : Network} {result : Except WireFault (Nat × List UInt8)}
      {records : List Log.Record} (visits : w.visits o = true) (leaves : onward o n = some o')
      (rest : Exchanged w left o' (n.deliver o).2 result records) :
      Exchanged w (left + 1) o n result (attempt o.url ++ records)

theorem exchanged_of_not_visits (left : Nat) (n : Network) (h : w.visits o = false) :
    w.Exchanged left o n (w.exchange left o n).1 (w.exchange left o n).2.1 := by
  rw [exchange]
  split
  · exact .astray rfl (List.nil_subset _)
  split
  · exact .astray rfl (List.Subset.refl _)
  · next hs hr =>
    have hvisits : w.visits o = true := by
      rw [Bool.not_eq_true', Bool.not_eq_false] at hs hr
      rw [visits, hs, hr]
      rfl
    rw [h] at hvisits
    cases hvisits

/-- Every exchange goes one of these ways. -/
theorem exchanged (w : Wire) (left : Nat) (o : Outgoing) (n : Network) :
    w.Exchanged left o n (w.exchange left o n).1 (w.exchange left o n).2.1 := by
  induction left generalizing o n with
  | zero =>
    cases hv : w.visits o with
    | false => exact exchanged_of_not_visits 0 n hv
    | true =>
      cases ho : onward o n with
      | none =>
        rw [exchange_of_settled 0 hv ho]
        exact .settled hv ho
      | some o' =>
        rw [exchange_zero_of_onward hv ho]
        exact .exhausted hv ho
  | succ left ih =>
    cases hv : w.visits o with
    | false => exact exchanged_of_not_visits (left + 1) n hv
    | true =>
      cases ho : onward o n with
      | none =>
        rw [exchange_of_settled (left + 1) hv ho]
        exact .settled hv ho
      | some o' =>
        rw [exchange_followed left hv ho]
        exact .followed hv ho (ih o' (n.deliver o).2)

/-! ### All that arrives -/

/-- What arrives of a request that is sent, at most so many redirections being followed. -/
def arrivals (w : Wire) : Nat → Outgoing → Network → List Arrival
  | 0, o, _ => if w.visits o then [Network.arrival o] else []
  | left + 1, o, n =>
    if w.visits o then
      Network.arrival o :: ((onward o n).map fun o' => w.arrivals left o' (n.deliver o).2).getD []
    else []

theorem arrivals_eq_nil {left : Nat} : w.arrivals left o n = [] ↔ w.visits o = false := by
  cases left <;> simp [arrivals]

/-- The server keeps what it received, and receives nothing else. -/
theorem received_exchange (w : Wire) : ∀ (left : Nat) (o : Outgoing) (n : Network),
    (w.exchange left o n).2.2.received = n.received ++ w.arrivals left o n := by
  intro left
  induction left with
  | zero =>
    intro o n
    cases hv : w.visits o with
    | false =>
      obtain ⟨f, records, h⟩ := exchange_of_not_visits 0 n hv
      rw [h, arrivals_eq_nil.mpr hv, List.append_nil]
    | true =>
      have harr : w.arrivals 0 o n = [Network.arrival o] := by rw [arrivals, if_pos hv]
      rw [harr]
      cases ho : onward o n with
      | none => rw [exchange_of_settled _ hv ho, Network.received_deliver]
      | some o' => rw [exchange_zero_of_onward hv ho, Network.received_deliver]
  | succ left ih =>
    intro o n
    cases hv : w.visits o with
    | false =>
      obtain ⟨f, records, h⟩ := exchange_of_not_visits (left + 1) n hv
      rw [h, arrivals_eq_nil.mpr hv, List.append_nil]
    | true =>
      rw [arrivals, if_pos hv]
      cases ho : onward o n with
      | none =>
        rw [exchange_of_settled _ hv ho, Network.received_deliver]
        rfl
      | some o' =>
        obtain ⟨records, h⟩ := exchange_of_onward left hv ho
        rw [h, ih, Network.received_deliver, List.append_assoc]
        rfl

/-- What arrives while a request is sent. -/
def arriving (w : Wire) (r : Request) (n : Network) : List Arrival :=
  match w.config.outgoing r with
  | .error _ => []
  | .ok o => w.arrivals 10 o n

theorem send_of_fault {f : WireFault} {records : List Log.Record} {n' : Network} (ho : w.config.outgoing r = .ok o)
    (he : w.exchange 10 o n = (.error f, records, n')) :
    w.send r n = (.error f.error, record (o.method.name ++ ' ' :: o.url.text) :: records, n') := by
  rw [send, ho]
  simp only [he]

theorem send_of_reply {status : Nat} {body : List UInt8} {records : List Log.Record} {n' : Network}
    (ho : w.config.outgoing r = .ok o) (he : w.exchange 10 o n = (.ok (status, body), records, n')) :
    w.send r n = (conclude status (Utf8.decodeLossy body), record (o.method.name ++ ' ' :: o.url.text) :: records ++
      [record (r.method.name ++ " -> ".toList ++ Status.text status)], n') := by
  rw [send, ho]
  simp only [he]

/-- A response is a reply with success, after however many redirections. -/
theorem exchange_of_send {response : Response} (h : (w.send r n).1 = .ok response) :
    ∃ o status body records n', w.config.outgoing r = .ok o ∧
      w.exchange 10 o n = (.ok (status, body), records, n') ∧ Status.isSuccess status = true := by
  cases ho : w.config.outgoing r with
  | error e =>
    rw [send, ho] at h
    cases h
  | ok o =>
    rcases he : w.exchange 10 o n with ⟨f | ⟨status, body⟩, records, n'⟩
    · rw [send_of_fault ho he] at h
      cases h
    · rw [send_of_reply ho he] at h
      simp only [conclude] at h
      split at h
      · next hs => exact ⟨o, status, body, records, n', rfl, he, hs⟩
      · cases h

theorem received_send (w : Wire) (r : Request) (n : Network) :
    (w.send r n).2.2.received = n.received ++ w.arriving r n := by
  rw [arriving]
  cases ho : w.config.outgoing r with
  | error e =>
    rw [send, ho]
    exact (List.append_nil _).symm
  | ok o =>
    have h := w.received_exchange 10 o n
    rcases he : w.exchange 10 o n with ⟨f | ⟨status, body⟩, records, n'⟩
    · rw [he] at h
      rw [send_of_fault ho he]
      exact h
    · rw [he] at h
      rw [send_of_reply ho he]
      exact h

end Wire

end PaymentDesk
