import PaymentDesk.Proofs.Dialogue.Replies
import PaymentDesk.Proofs.Session.Round
import PaymentDesk.Proofs.Wire.Arrivals
import PaymentDesk.Proofs.Wire.Documents

/-!
# The contract of transports

A transport is to give a response only for a status of success, and an error with the status for any other one
(`Lawful`). The operations rely on it: they read the body of a response without another look at its status.

* **The transport over a network keeps the contract** (`Wire.send_ok_iff`, `Wire.send_status_iff`): what it gives is
  decided by the status of the last reply, the one that is not followed any further.
* **The recording transport keeps it exactly for those who script it** (`Recording.lawful_iff`): it hands out what was
  queued as it is, so that it may give a response with any status at all, which an operation then takes for a payment
  (`not_lawful_scripted`).
-/

namespace PaymentDesk

/-- A reply that keeps to the contract: a response means success. -/
def Lawful (reply : Reply) : Prop := ∀ response, reply = .ok response → Status.isSuccess response.status = true

/-! ## The transport over a network -/

namespace Wire

variable {w : Wire} {r : Request} {n : Network}

/-- The last reply to a request has this status, at most so many redirections being followed. -/
inductive Answered (w : Wire) : Nat → Outgoing → Network → Nat → Prop where
  | last {left : Nat} {o : Outgoing} {n : Network} {status : Nat} {headers : List Header} {body : List UInt8}
      (visits : w.visits o = true) (reply : (n.deliver o).1 = .reply status headers body)
      (stays : redirection? o.url status headers = none) : Answered w left o n status
  | followed {left : Nat} {o o' : Outgoing} {n : Network} {status : Nat} (visits : w.visits o = true)
      (leaves : onward o n = some o') (rest : Answered w left o' (n.deliver o).2 status) :
      Answered w (left + 1) o n status

theorem exchange_of_answered {left : Nat} {o : Outgoing} {status : Nat} (h : w.Answered left o n status) :
    ∃ body records n', w.exchange left o n = (.ok (status, body), records, n') := by
  induction h with
  | last visits reply stays =>
    exact ⟨_, _, _, exchange_of_stays _ visits reply stays⟩
  | followed visits leaves rest ih =>
    obtain ⟨body, records, n', hrest⟩ := ih
    obtain ⟨records', hfollowed⟩ := exchange_of_onward _ visits leaves
    rw [hfollowed, hrest]
    exact ⟨_, _, _, rfl⟩

theorem answered_of_exchanged {left : Nat} {o : Outgoing} {result : Except WireFault (Nat × List UInt8)}
    {records : List Log.Record} (h : w.Exchanged left o n result records) :
    ∀ status body, result = .ok (status, body) → w.Answered left o n status := by
  induction h with
  | astray own recorded =>
    intro status body h
    cases h
  | @settled _ o n visits stays =>
    intro status body h
    obtain ⟨headers, bytes, hreply, hnone⟩ := of_settle h
    exact .last visits hreply hnone
  | exhausted visits leaves =>
    intro status body h
    cases h
  | followed visits leaves rest ih => exact fun status body h => .followed visits leaves (ih status body h)

/-- The last reply to a request that is sent has this status. -/
def Ends (w : Wire) (r : Request) (n : Network) (status : Nat) : Prop :=
  ∃ o, w.config.outgoing r = .ok o ∧ w.Answered 10 o n status

/-- What is sent comes to what the last reply comes to. -/
theorem send_of_ends {status : Nat} (h : w.Ends r n status) : ∃ body, (w.send r n).1 = conclude status body := by
  obtain ⟨o, ho, hanswered⟩ := h
  obtain ⟨body, records, n', he⟩ := exchange_of_answered hanswered
  rw [send_of_reply ho he]
  exact ⟨_, rfl⟩

/-- Without a last reply there is neither a response nor a status. -/
theorem ends_or_error (w : Wire) (r : Request) (n : Network) : (∃ status, w.Ends r n status) ∨
    ∃ err, (w.send r n).1 = .error err ∧ ∀ status body, err ≠ .status status body := by
  cases ho : w.config.outgoing r with
  | error err =>
    right
    refine ⟨err, by rw [send, ho], fun status body => ?_⟩
    rintro rfl
    simp only [Config.outgoing, Config.urlFor] at ho
    split at ho <;> cases ho
  | ok o =>
    rcases he : w.exchange 10 o n with ⟨f | ⟨status, body⟩, records, n'⟩
    · refine .inr ⟨f.error, by rw [send_of_fault ho he], fun status body h => ?_⟩
      cases h
    · exact .inl ⟨status, o, ho, answered_of_exchanged (w.exchanged 10 o n) status body (congrArg Prod.fst he)⟩

/-- **A response is given exactly for a last reply with success.** -/
theorem send_ok_iff {status : Nat} : (∃ response, (w.send r n).1 = .ok response ∧ response.status = status) ↔
    w.Ends r n status ∧ Status.isSuccess status = true := by
  constructor
  · rintro ⟨response, hok, rfl⟩
    rcases ends_or_error w r n with ⟨status, hends⟩ | ⟨err, herr, -⟩
    · obtain ⟨body, hsend⟩ := send_of_ends hends
      rw [hok, conclude] at hsend
      split at hsend
      · next hsuccess =>
        cases hsend
        exact ⟨hends, hsuccess⟩
      · cases hsend
    · rw [hok] at herr
      cases herr
  · rintro ⟨hends, hsuccess⟩
    obtain ⟨body, hsend⟩ := send_of_ends hends
    rw [conclude, if_pos hsuccess] at hsend
    exact ⟨_, hsend, rfl⟩

/-- **An error with the status is given exactly for any other last reply.** -/
theorem send_status_iff {status : Nat} : (∃ body, (w.send r n).1 = .error (.status status body)) ↔
    w.Ends r n status ∧ Status.isSuccess status = false := by
  constructor
  · rintro ⟨body, hstatus⟩
    rcases ends_or_error w r n with ⟨status', hends⟩ | ⟨err, herr, hnone⟩
    · obtain ⟨body', hsend⟩ := send_of_ends hends
      rw [hstatus, conclude] at hsend
      split at hsend
      · cases hsend
      · next hfailure =>
        cases hsend
        exact ⟨hends, Bool.eq_false_iff.mpr hfailure⟩
    · rw [hstatus] at herr
      cases herr
      exact absurd rfl (hnone status body)
  · rintro ⟨hends, hfailure⟩
    obtain ⟨body, hsend⟩ := send_of_ends hends
    rw [conclude, hfailure] at hsend
    exact ⟨_, hsend⟩

theorem lawful_send (w : Wire) (r : Request) (n : Network) : Lawful (w.send r n).1 :=
  fun response h => (send_ok_iff.mp ⟨response, h, rfl⟩).2

end Wire

/-! ## The recording transport -/

namespace Recording

/-- What is done with a recording transport. -/
inductive Act where
  | push (reply : Reply)
  | pushJson (status : Nat) (body : Json.Value)
  | send (request : Request)

namespace Act

/-- The reply that an act scripts. -/
def scripted : Act → List Reply
  | push reply => [reply]
  | pushJson status body => [.ok ⟨status, Json.compact body⟩]
  | send _ => []

/-- The reply that an act gets. -/
def given : Act → Recording → List Reply
  | send request, t => [(Recording.send request t).1]
  | _, _ => []

/-- The state after an act. -/
def after : Act → Recording → Recording
  | push reply, t => t.push reply
  | pushJson status body, t => t.pushJson status body
  | send request, t => (Recording.send request t).2.2

end Act

/-- The replies that acts get, one after the other. -/
def given : List Act → Recording → List Reply
  | [], _ => []
  | act :: acts, t => act.given t ++ given acts (act.after t)

/-- The state after acts. -/
def after (acts : List Act) (t : Recording) : Recording := acts.foldl (fun t act => act.after t) t

/-- Replies all of which keep to the contract. -/
def AllLawful (replies : List Reply) : Prop := ∀ reply ∈ replies, Lawful reply

theorem allLawful_append {x y : List Reply} : AllLawful (x ++ y) ↔ AllLawful x ∧ AllLawful y :=
  List.forall_mem_append

theorem allLawful_nil : AllLawful [] := List.forall_mem_nil _

theorem lawful_fallback : Lawful fallback := by
  intro response h
  cases h
  rfl

/-- **An act gives and keeps what was queued and what it scripts**, and nothing else that could be unlawful. -/
theorem allLawful_act (act : Act) (t : Recording) : AllLawful (act.given t) ∧ AllLawful (act.after t).replies ↔
    AllLawful t.replies ∧ AllLawful act.scripted := by
  cases act with
  | push reply => exact (and_iff_right allLawful_nil).trans allLawful_append
  | pushJson status body => exact (and_iff_right allLawful_nil).trans allLawful_append
  | send request =>
    obtain ⟨requests, replies⟩ := t
    cases replies with
    | nil =>
      have hgiven : AllLawful [fallback] := List.forall_mem_singleton.mpr lawful_fallback
      exact iff_of_true ⟨hgiven, allLawful_nil⟩ ⟨allLawful_nil, allLawful_nil⟩
    | cons reply rest =>
      have hcut : AllLawful [reply] ∧ AllLawful rest ↔ AllLawful (reply :: rest) := allLawful_append.symm
      exact hcut.trans (and_iff_left allLawful_nil).symm

/-- So do acts one after the other. -/
theorem allLawful_acts (acts : List Act) (t : Recording) :
    AllLawful (given acts t) ∧ AllLawful (after acts t).replies ↔
      AllLawful t.replies ∧ AllLawful (acts.flatMap Act.scripted) := by
  induction acts generalizing t with
  | nil => exact and_comm
  | cons act acts ih =>
    rw [given, allLawful_append, List.flatMap_cons, allLawful_append, ← and_assoc (a := AllLawful t.replies),
      ← allLawful_act, and_assoc, and_assoc, ← ih (act.after t)]
    rfl

/-- Requests take one queued reply each. -/
theorem replies_after_sends (requests : List Request) (t : Recording) :
    (after (requests.map Act.send) t).replies = t.replies.drop requests.length := by
  induction requests generalizing t with
  | nil => rfl
  | cons request requests ih =>
    obtain ⟨asked, replies⟩ := t
    have hrest := ih (Act.after (.send request) ⟨asked, replies⟩)
    cases replies with
    | nil => exact hrest.trans (List.drop_nil)
    | cons reply rest => exact hrest

theorem given_append (x y : List Act) (t : Recording) : given (x ++ y) t = given x t ++ given y (after x t) := by
  induction x generalizing t with
  | nil => rfl
  | cons act x ih =>
    rw [List.cons_append, given, given, ih, List.append_assoc]
    rfl

/-- **The contract is kept exactly if all replies are scripted so.** -/
theorem lawful_iff (acts : List Act) :
    (∀ requests : List Request, AllLawful (given (acts ++ requests.map Act.send) {})) ↔
      AllLawful (acts.flatMap Act.scripted) := by
  have hacts := (allLawful_acts acts {}).trans (and_iff_right allLawful_nil)
  rw [← hacts]
  have hsends (requests : List Request) : AllLawful (given (requests.map Act.send) (after acts {})) ∧
      AllLawful ((after acts {}).replies.drop requests.length) ↔ AllLawful (after acts {}).replies := by
    have hscripted : (requests.map Act.send).flatMap Act.scripted = [] := by
      rw [List.flatMap_map]
      exact List.flatMap_eq_nil_iff.mpr fun _ _ => rfl
    have h := allLawful_acts (requests.map Act.send) (after acts {})
    rw [hscripted, replies_after_sends] at h
    exact h.trans (and_iff_left allLawful_nil)
  constructor
  · intro h
    -- asked often enough, the transport gives all that is queued
    have hall := h (List.replicate (after acts {}).replies.length (.get []))
    rw [given_append, allLawful_append] at hall
    refine ⟨hall.1, (hsends _).mp ⟨hall.2, ?_⟩⟩
    rw [List.length_replicate, List.drop_length]
    exact allLawful_nil
  · intro h requests
    rw [given_append, allLawful_append]
    exact ⟨h.1, ((hsends requests).mpr h.2).1⟩

end Recording

/-! ## Operations -/

/-- A document that an operation ends with is the body of a response with success. -/
def Operation.ShowsSuccess {σ : Type} (e : Setting σ) (v : Variant) (op : Operation) (w : World σ) : Prop :=
  ∀ d, ((op.perform v).run e w).1 = .ok (.ok (some d)) → ∃ q response,
    .sent q (.ok response) ∈ (op.perform v).steps e w ∧ response.json = .ok d ∧ Status.isSuccess response.status = true

/-- **Operations rely on the contract**: where it is kept, they show no document but that of a success. -/
theorem Operation.showsSuccess {σ : Type} {e : Setting σ} {I : σ → Prop} (he : Dialogue.Answers e I Lawful)
    (v : Variant) (op : Operation) {w : World σ} (hI : I w.transport) : ShowsSuccess e v op w := by
  intro d h
  obtain ⟨o, ho, performed⟩ := (always_perform v op).run e w
  obtain rfl := Except.ok.inj (h.symm.trans ho)
  obtain ⟨before, q, response, hsteps, -, hd⟩ := performed.shown d rfl
  have hsent : .sent q (.ok response) ∈ (op.perform v).steps e w := by
    rw [hsteps]
    exact List.mem_append_right _ List.mem_cons_self
  exact ⟨q, response, hsent, hd, Dialogue.reply_of_sent he hsent hI response rfl⟩

/-- A queue of lawful replies stays one. -/
theorem Recording.answers_lawful (clock : Nat → Int) :
    Dialogue.Answers ⟨Recording.transport, clock⟩ (fun t => AllLawful t.replies) Lawful := by
  intro request t ht
  have hact := (allLawful_act (.send request) t).mpr ⟨ht, allLawful_nil⟩
  exact ⟨hact.1 _ List.mem_cons_self, hact.2⟩

/-- **Who keeps the contract.** Over a network a request is answered with a response exactly if the last reply to it
means success, and with an error of its status exactly if it does not. The recording transport, whatever was queued and
asked so far, keeps the contract from beginning to end exactly if all that was queued does. And where the contract is
kept, every document that an operation ends with is the body of a response with success. -/
theorem contract_iff (acts : List Recording.Act) :
    (∀ (w : Wire) (r : Request) (n : Network) (status : Nat),
      ((∃ response, (w.send r n).1 = .ok response ∧ response.status = status) ↔
        w.Ends r n status ∧ Status.isSuccess status = true) ∧
      ((∃ body, (w.send r n).1 = .error (.status status body)) ↔
        w.Ends r n status ∧ Status.isSuccess status = false)) ∧
    ((∀ requests : List Request, Recording.AllLawful (Recording.given (acts ++ requests.map .send) {})) ↔
      Recording.AllLawful (acts.flatMap Recording.Act.scripted)) ∧
    ∀ (v : Variant) (op : Operation) (clock : Nat → Int),
      (∀ (w : Wire) (x : World Network), op.ShowsSuccess ⟨w.transport, clock⟩ v x) ∧
      (Recording.AllLawful (acts.flatMap Recording.Act.scripted) →
        ∀ x : World Recording, x.transport = Recording.after acts {} →
          op.ShowsSuccess ⟨Recording.transport, clock⟩ v x) := by
  refine ⟨fun w r n status => ⟨Wire.send_ok_iff, Wire.send_status_iff⟩, Recording.lawful_iff acts,
    fun v op clock => ⟨fun w x => ?_, fun hscripted x hx => ?_⟩⟩
  · have he : Dialogue.Answers ⟨w.transport, clock⟩ (fun _ => True) Lawful := fun r n _ =>
      ⟨Wire.lawful_send w r n, trivial⟩
    exact Operation.showsSuccess he v op trivial
  · have hqueued : Recording.AllLawful x.transport.replies := by
      rw [hx]
      exact ((Recording.allLawful_acts acts {}).mpr ⟨Recording.allLawful_nil, hscripted⟩).2
    exact Operation.showsSuccess (Recording.answers_lawful clock) v op hqueued

/-- A script that keeps the contract: a payment, and an error in the place of the next one. -/
theorem contract_iff_kept :
    let acts : List Recording.Act := [.pushJson 201 (.object []), .push (.error (.status 404 []))]
    (∀ requests : List Request, Recording.AllLawful (Recording.given (acts ++ requests.map .send) {})) ∧
      (Operation.get "p1".toList).ShowsSuccess ⟨Recording.transport, fun _ => 0⟩ .current
        { transport := Recording.after acts {} } := by
  intro acts
  have hscripted : Recording.AllLawful (acts.flatMap Recording.Act.scripted) := by
    intro reply hmem response h
    rcases List.mem_cons.mp hmem with rfl | hmem
    · cases h
      rfl
    · rw [List.mem_singleton.mp hmem] at h
      cases h
  obtain ⟨-, hiff, hshows⟩ := contract_iff acts
  exact ⟨hiff.mpr hscripted, (hshows .current (.get "p1".toList) fun _ => 0).2 hscripted _ rfl⟩

/-- **A scripted response with another status is given as it is**, and an operation takes its body for a payment. -/
theorem not_lawful_scripted : let acts : List Recording.Act := [.pushJson 404 (.object [])]
    Recording.given (acts ++ [.send (.get "p1".toList)]) {} = [.ok ⟨404, ['\x7b', '\x7d']⟩] ∧
      ¬ Recording.AllLawful (Recording.given (acts ++ [.send (.get "p1".toList)]) {}) ∧
      ¬ (Operation.get "p1".toList).ShowsSuccess ⟨Recording.transport, fun _ => 0⟩ .current
        { transport := Recording.after acts {} } := by
  intro acts
  have hgiven : Recording.given (acts ++ [.send (.get "p1".toList)]) {} = [.ok ⟨404, ['\x7b', '\x7d']⟩] := rfl
  refine ⟨hgiven, fun h => ?_, fun h => ?_⟩
  · have hsuccess := h _ (hgiven ▸ List.mem_cons_self) _ rfl
    cases hsuccess
  · have hjson : Response.json ⟨404, ['\x7b', '\x7d']⟩ = .ok (.object []) :=
      Fields.json_document (f := []) (List.forall_mem_nil _) 404
    have hshown : (((Operation.get "p1".toList).perform .current).run ⟨Recording.transport, fun _ => 0⟩
        { transport := Recording.after acts {} }).1 = .ok (.ok (some (.object []))) := by
      show Except.ok ((Response.json ⟨404, ['\x7b', '\x7d']⟩).map some) = _
      rw [hjson]
      rfl
    obtain ⟨q, response, hsent, -, hsuccess⟩ := h _ hshown
    cases List.mem_singleton.mp hsent
    cases hsuccess

end PaymentDesk
