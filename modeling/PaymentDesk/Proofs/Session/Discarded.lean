import PaymentDesk.Proofs.Dialogue.Heedless
import PaymentDesk.Proofs.Session.Failure

/-!
# Replies to cancellations and refunds

What the service says when it accepts a cancellation or a refund has no influence on a session. **Over queues of replies
that differ in such replies only, sessions show, log, ask and end the same** (`run_discards`). In particular the document
that is shown for a cancellation is the one that was fetched after it, and a refund shows none.
-/

namespace PaymentDesk

open Text

namespace Operation

theorem heedless_fetch {q : Request} (hq : ¬ Discards q) : (fetch q).Heedless Discards := by
  refine ⟨fun h => absurd h hq, fun reply => ?_⟩
  cases reply <;> exact trivial

/-- **Operations are heedless** of what is said when a cancellation or a refund is accepted. -/
theorem heedless_perform (v : Variant) (op : Operation) : (op.perform v).Heedless Discards := by
  cases op with
  | list => exact heedless_fetch (not_discards_of_get rfl)
  | get id => exact heedless_fetch (not_discards_of_get rfl)
  | create => exact fun second => heedless_fetch (not_discards_creation _ second)
  | createAt second => exact heedless_fetch (not_discards_creation _ second)
  | search c => exact heedless_fetch (not_discards_of_get rfl)
  | cancel id =>
    refine ⟨fun _ a b => rfl, fun reply => ?_⟩
    cases reply with
    | error err => exact trivial
    | ok response => exact heedless_fetch (not_discards_of_get rfl)
  | refund reference =>
    refine ⟨fun _ a b => rfl, fun reply => ?_⟩
    cases reply <;> exact trivial

/-- A cancellation has a document to show only if the payment could be fetched after it. -/
theorem always_cancel (v : Variant) (id : List Char) : ((cancel id).perform v).Always fun x r =>
    ∀ d, r = .ok (.ok (some d)) → ∃ response record response',
      x = [.sent (cancelRequest id) (.ok response), .noted record, .sent (.get id) (.ok response')] ∧
      response'.json = .ok d := by
  intro reply
  cases reply with
  | error err => exact nofun
  | ok response =>
    intro reply'
    cases reply' with
    | error err => exact nofun
    | ok response' =>
      intro d hd
      refine ⟨response, _, response', rfl, ?_⟩
      have hd : response'.json.map some = .ok (some d) := Except.ok.inj hd
      cases hj : response'.json <;> rw [hj] at hd <;> cases hd
      rfl

/-- A refund has no document to show. -/
theorem always_refund (v : Variant) (reference : List Char) : ((refund reference).perform v).Always fun _ r =>
    ∀ shown, r = .ok (.ok shown) → shown = none := by
  intro reply
  cases reply with
  | error err => exact nofun
  | ok response =>
    intro shown h
    cases h
    rfl

end Operation

namespace Session

section Heedless

variable {v : Variant}

theorem heedless_action (v : Variant) (a : Action) : (perform v a).Heedless Discards := by
  refine (talk_order v a).heedless.bind fun answer => ?_
  rcases answer with err | _ | op
  · exact trivial
  · exact trivial
  · exact Operation.heedless_perform v op

theorem heedless_report (a : Action) (o : Operation.Outcome) : (report a o).Heedless Discards := by
  rcases o with err | _ | d
  · cases err <;> exact trivial
  · exact trivial
  · exact trivial

/-- **Rounds are heedless** of what is said when a cancellation or a refund is accepted. -/
theorem heedless_round (v : Variant) : (round v).Heedless Discards := by
  have talk : (choose v).Talk fun _ => True := ⟨rfl, talk_ask _⟩
  rw [round_eq_choose]
  refine talk.heedless.bind fun answer => ?_
  cases answer with
  | none => exact trivial
  | some c =>
    rw [follow]
    cases v.actionFor c with
    | none => exact trivial
    | some a =>
      have acts : (perform v a >>= fun o => report a o >>= fun _ => pure Turn.again).Heedless Discards :=
        (heedless_action v a).bind fun o => (heedless_report a o).bind fun _ => trivial
      cases a with
      | quit => exact trivial
      | _ => exact acts

end Heedless

/-! ## Sessions -/

/-- A session runs in the same way over interchangeable queues. -/
theorem run_queued (clock : Nat → Int) (v : Variant) (w : World Recording) {asked : List Request}
    {replies : List Reply}
    (hasked : (run ⟨Recording.transport, clock⟩ v w).2.transport.requests = w.transport.requests ++ asked)
    (h : Interchangeable Discards asked w.transport.replies replies) :
    ∃ replies', run ⟨Recording.transport, clock⟩ v (w.queued replies) =
      ((run ⟨Recording.transport, clock⟩ v w).1, (run ⟨Recording.transport, clock⟩ v w).2.queued replies') := by
  induction w using Session.run.induct ⟨Recording.transport, clock⟩ v generalizing asked replies with
  | case1 w err w' hr =>
    rw [run_of_error hr] at hasked ⊢
    rw [← List.append_nil asked] at h
    obtain ⟨replies', -, hrun⟩ := Dialogue.run_queued clock (heedless_round v) w (by rw [hr]; exact hasked) h
    rw [hr] at hrun
    exact ⟨replies', run_of_error hrun⟩
  | case2 w w' hr =>
    rw [run_of_over hr] at hasked ⊢
    rw [← List.append_nil asked] at h
    obtain ⟨replies', -, hrun⟩ := Dialogue.run_queued clock (heedless_round v) w (by rw [hr]; exact hasked) h
    rw [hr] at hrun
    exact ⟨replies', run_of_over hrun⟩
  | case3 w w' hr ih =>
    rw [run_of_again hr] at hasked ⊢
    -- what the first round asks, and what the others ask
    obtain ⟨first, hfirst⟩ := (round v).exists_requests_run clock w
    obtain ⟨others, hothers⟩ := requests_run clock v w'
    rw [hr] at hfirst
    obtain rfl : asked = first ++ others := by
      rw [← hothers, hfirst, List.append_assoc] at hasked
      exact (List.append_cancel_left hasked).symm
    obtain ⟨replies', hlater, hrun⟩ := Dialogue.run_queued clock (heedless_round v) w (by rw [hr]; exact hfirst) h
    rw [hr] at hlater hrun
    rw [run_of_again hrun]
    exact ih hothers.symm hlater

/-! ## What is shown -/

section Shown

variable {σ : Type} {e : Setting σ} {v : Variant} {w : World σ} {x : List Step}

/-- The action that was chosen takes its steps after the choice. -/
theorem exists_of_comesTo {a : Action} {o : Operation.Outcome} {P : List Step → Except Error Operation.Outcome → Prop}
    (h : ComesTo e v w a o x) (hp : (perform v a).Always P) : ∃ earlier y, x = earlier ++ y ∧ P y (.ok o) := by
  obtain ⟨c, w₁, w₂, -, -, hrun, rfl⟩ := h.chosen
  have hP := hp.run e w₁
  rw [hrun] at hP
  exact ⟨_, _, rfl, hP⟩

/-- An action that asks for an identifier performs the operation on it, after some steps, or ends with an error. -/
theorem always_identified {a : Action} {label : List Char} {op : List Char → Operation}
    {P : List Char → List Step → Except Error Operation.Outcome → Prop}
    (ha : order v a = (require label >>= fun r => pure (r.map (some ∘ op)) : Dialogue _))
    (hop : ∀ id, ((op id).perform v).Always (P id)) : (perform v a).Always fun x r =>
      ∀ shown, r = .ok (.ok shown) → ∃ id earlier y, x = earlier ++ y ∧ P id y r := by
  have talk : (order v a).Talk fun answer => (∃ err, answer = .error err) ∨ ∃ id, answer = .ok (some (op id)) := by
    rw [ha]
    refine (talk_require label).bind fun r _ => ?_
    cases r with
    | error err => exact .inl ⟨err, rfl⟩
    | ok id => exact .inr ⟨id, rfl⟩
  refine talk.always.bind (fun _ _ _ => nofun) ?_
  intro x answer hx
  rcases hx.result answer rfl with ⟨err, rfl⟩ | ⟨id, rfl⟩
  · exact nofun
  · exact (hop id).mono fun y r hy shown _ => ⟨id, x, y, rfl, hy⟩

end Shown

/-- **Replies to cancellations and refunds are discarded.** If a session is held again with other replies, and those
differ only in what accepted cancellations and refunds are answered, it shows, logs, asks and ends the same. A document
is shown right after the reply that holds it, which answers no such request: for a cancellation it is the reply to the
fetch after it, and after a refund that was accepted nothing more is shown. -/
theorem run_discards (clock : Nat → Int) (v : Variant) (w : World Recording) (replies : List Reply)
    (h : Interchangeable Discards ((run ⟨Recording.transport, clock⟩ v w).2.transport.requests.drop
      w.transport.requests.length) w.transport.replies replies) :
    let e : Setting Recording := ⟨Recording.transport, clock⟩
    let one := run e v w
    let other := run e v (w.queued replies)
    (other.1 = one.1 ∧ other.2.sink = one.2.sink ∧ other.2.log = one.2.log ∧
      other.2.transport.requests = one.2.transport.requests ∧ other.2.input = one.2.input ∧
      other.2.ticks = one.2.ticks) ∧
    Presents (steps e v w) ∧
    (∀ w' ∈ beginnings e v w, ∀ x d, ComesTo e v w' .cancel (.ok (some d)) x → ∃ earlier id response record response',
      x = earlier ++ [.sent (Operation.cancelRequest id) (.ok response), .noted record,
        .sent (.get id) (.ok response')] ∧ response'.json = .ok d) ∧
    ∀ w' ∈ beginnings e v w, ∀ x shown, ComesTo e v w' .refund (.ok shown) x →
      shown = none ∧ (round v).steps e w' = x := by
  intro e one other
  obtain ⟨asked, hasked⟩ := requests_run clock v w
  rw [← hasked, List.drop_left] at h
  obtain ⟨replies', hrun⟩ := run_queued clock v w hasked.symm h
  have hother : other = (one.1, one.2.queued replies') := hrun
  refine ⟨?_, (whole e v w).presents, fun w' _ x d hx => ?_, fun w' _ x shown hx => ?_⟩
  · rw [hother]
    exact ⟨rfl, rfl, rfl, rfl, rfl, rfl⟩
  · obtain ⟨earlier, y, rfl, hy⟩ := exists_of_comesTo hx (always_identified rfl (Operation.always_cancel v))
    obtain ⟨id, before, z, rfl, hz⟩ := hy (some d) rfl
    obtain ⟨response, record, response', rfl, hd⟩ := hz d rfl
    exact ⟨earlier ++ before, id, response, record, response', (List.append_assoc ..).symm, hd⟩
  · obtain ⟨earlier, y, hxy, hy⟩ := exists_of_comesTo hx (always_identified rfl (Operation.always_refund v))
    obtain ⟨id, before, z, rfl, hz⟩ := hy shown rfl
    obtain rfl := hz shown rfl
    obtain ⟨w₂, -, hsteps⟩ := round_of_comesTo hx nofun
    exact ⟨rfl, by rw [hsteps]; exact List.append_nil x⟩

/-- A cancellation and a refund, answered in two ways. -/
theorem run_discards_both :
    let e : Setting Recording := ⟨Recording.transport, fun _ => 0⟩
    let fetched : Reply := .ok ⟨200, "\x7b\"id\": \"p1\"\x7d".toList⟩
    let replies : List Reply := [.ok ⟨500, "no document".toList⟩, fetched, .ok ⟨200, "[]".toList⟩]
    let w : World Recording := {
      input := byteLines (Utf8.encode "3\np1\n4\nr1\nq\n".toList)
      transport := { replies := [.ok ⟨204, []⟩, fetched, .ok ⟨201, []⟩] } }
    Interchangeable Discards ((run e .current w).2.transport.requests.drop 0) w.transport.replies replies ∧
      (run e .current (w.queued replies)).2.sink = (run e .current w).2.sink := by
  intro e fetched replies w
  have asked (i : Nat) (hi : (((run e .current w).2.transport.requests.drop 0)[i]?.any fun q => Discards q) = true) :
      ∃ q, ((run e .current w).2.transport.requests.drop 0)[i]? = some q ∧ Discards q := by
    simpa [Option.any_eq_true] using hi
  have h : Interchangeable Discards ((run e .current w).2.transport.requests.drop 0) w.transport.replies replies := by
    intro i
    match i with
    | 0 =>
      obtain ⟨q, hq, hd⟩ := asked 0 (by decide +kernel)
      exact .inr ⟨q, _, _, hq, hd, rfl, rfl⟩
    | 1 => exact .inl rfl
    | 2 =>
      obtain ⟨q, hq, hd⟩ := asked 2 (by decide +kernel)
      exact .inr ⟨q, _, _, hq, hd, rfl, rfl⟩
    | _ + 3 => exact .inl rfl
  exact ⟨h, (run_discards (fun _ => 0) .current w replies h).1.2.1⟩

end Session

end PaymentDesk
