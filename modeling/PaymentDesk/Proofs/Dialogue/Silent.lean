import PaymentDesk.Operation
import PaymentDesk.Transport.Recording

/-!
# Dialogues that leave the terminal alone

A dialogue is silent when it neither writes nor flushes nor reads, and never fails (`Dialogue.Silent`): it sends
requests, reads the clock and writes log records only. How it ends then depends on the clock and the transport alone,
and input and output are left as they are (`Dialogue.Silent.run`).

The dialogue of an operation is silent, and it ends with an error of the terminal only if a reply was one
(`Operation.silent_perform`). The same holds of operations made one after the other (`Operation.silent_performAll`).
-/

namespace PaymentDesk

/-- A reply, or whatever comes of an operation, that is no error of the terminal. -/
def NoTerminal {α : Type} (r : Except Error α) : Prop := ∀ reason, r ≠ .error (.io reason)

namespace Dialogue

variable {α β σ : Type} {P : Reply → Prop} {Q : α → Prop} {R : β → Prop}

/-- Neither writes, flushes or reads nor fails; and if every reply satisfies `P`, the result satisfies `Q`. -/
def Silent (P : Reply → Prop) (Q : α → Prop) : Dialogue α → Prop
  | done a => Q a
  | fail _ => False
  | write _ _ _ => False
  | flush _ => False
  | read _ => False
  | note _ next => next.Silent P Q
  | time next => ∀ t, (next t).Silent P Q
  | send _ next => ∀ reply, P reply → (next reply).Silent P Q

theorem Silent.bind {d : Dialogue α} {f : α → Dialogue β} (hd : d.Silent P Q) (hf : ∀ a, Q a → (f a).Silent P R) :
    (d >>= f).Silent P R := by
  show (d.bind f).Silent P R
  induction d with
  | done a => exact hf a hd
  | note r next ih => exact ih hd
  | time next ih => exact fun t => ih t (hd t)
  | send r next ih => exact fun reply h => ih reply (hd reply h)
  | _ => exact absurd hd id

/-- A transport whose replies satisfy `P` as long as its states satisfy `I`. -/
def Answers (e : Setting σ) (I : σ → Prop) (P : Reply → Prop) : Prop :=
  ∀ r s, I s → P (e.transport.send r s).1 ∧ I (e.transport.send r s).2.2

/-- **Silent dialogues touch neither input nor output.** What they end with, what they log, and where they leave clock
and transport depends on clock and transport only. -/
theorem Silent.run {e : Setting σ} {I : σ → Prop} {d : Dialogue α} (hd : d.Silent P Q) (he : Answers e I P) :
    ∀ (ticks : Nat) (s : σ), I s → ∃ a records ticks' s', Q a ∧ I s' ∧ ∀ w : World σ, w.ticks = ticks →
      w.transport = s →
        d.run e w = (.ok a, { w with log := w.log ++ records, ticks := ticks', transport := s' }) := by
  induction d with
  | done a => exact fun ticks s hs => ⟨a, [], ticks, s, hd, hs, fun w h₁ h₂ => by subst h₁ h₂; simp [Dialogue.run]⟩
  | note r next ih =>
    intro ticks s hs
    obtain ⟨a, records, ticks', s', ha, hs', h⟩ := ih hd ticks s hs
    refine ⟨a, r :: records, ticks', s', ha, hs', fun w h₁ h₂ => ?_⟩
    rw [Dialogue.run, h { w with log := w.log ++ [r] } h₁ h₂, List.append_assoc, List.singleton_append]
  | time next ih =>
    intro ticks s hs
    obtain ⟨a, records, ticks', s', ha, hs', h⟩ := ih (e.clock ticks) (hd _) (ticks + 1) s hs
    refine ⟨a, records, ticks', s', ha, hs', fun w h₁ h₂ => ?_⟩
    subst h₁
    rw [Dialogue.run, h { w with ticks := w.ticks + 1 } rfl h₂]
  | send r next ih =>
    intro ticks s hs
    obtain ⟨hP, hI⟩ := he r s hs
    rcases hsend : e.transport.send r s with ⟨reply, sent, s₁⟩
    rw [hsend] at hP hI
    obtain ⟨a, records, ticks', s', ha, hs', h⟩ := ih reply (hd reply hP) ticks s₁ hI
    refine ⟨a, sent ++ records, ticks', s', ha, hs', fun w h₁ h₂ => ?_⟩
    subst h₂
    rw [Dialogue.run, hsend]
    simp only
    rw [h { w with log := w.log ++ sent, transport := s₁ } h₁ rfl, List.append_assoc]
  | _ => exact absurd hd id

end Dialogue

/-! ## Operations -/

namespace Operation

/-- Operations made one after the other, with what comes of each. -/
def performAll (v : Variant) : List Operation → Dialogue (List Outcome)
  | [] => pure []
  | op :: ops => do
    let outcome ← op.perform v
    let outcomes ← performAll v ops
    pure (outcome :: outcomes)

/-- Fetching a document is silent, and a document that cannot be read is no matter of the terminal. -/
theorem silent_fetch (r : Request) : (fetch r).Silent NoTerminal NoTerminal := by
  intro reply h
  cases reply with
  | error e => exact fun reason he => h reason (by cases he; rfl)
  | ok response =>
    intro reason hr
    simp only [Response.json] at hr
    cases hj : Json.parse response.body <;> rw [hj] at hr <;> cases hr

/-- **Operations are silent.** -/
theorem silent_perform (v : Variant) (op : Operation) : (op.perform v).Silent NoTerminal NoTerminal := by
  have failed : ∀ e : Error, NoTerminal (.error e : Reply) → NoTerminal (.error e : Outcome) :=
    fun e h reason he => h reason (by cases he; rfl)
  cases op with
  | list => exact silent_fetch _
  | get id => exact silent_fetch _
  | create => exact fun t => silent_fetch _
  | createAt second => exact silent_fetch _
  | search c => exact silent_fetch _
  | cancel id =>
    intro reply h
    cases reply with
    | error e => exact failed e h
    | ok response => exact silent_fetch (.get id)
  | refund reference =>
    intro reply h
    cases reply with
    | error e => exact failed e h
    | ok response => exact fun reason he => by cases he

theorem silent_performAll (v : Variant) : ∀ ops : List Operation,
    (performAll v ops).Silent NoTerminal fun outcomes => outcomes.length = ops.length
  | [] => rfl
  | op :: ops => (silent_perform v op).bind fun _ _ => (silent_performAll v ops).bind fun _ h => by
    show _ + 1 = _ + 1
    rw [h]

end Operation

/-! ## The recording transport -/

/-- A queue without errors of the terminal gives none, and keeps none. -/
theorem Recording.answers (clock : Nat → Int) : Dialogue.Answers ⟨Recording.transport, clock⟩
    (fun s => ∀ reply ∈ s.replies, NoTerminal reply) NoTerminal := by
  intro r s hs
  obtain ⟨requests, replies⟩ := s
  cases replies with
  | nil => exact ⟨fun _ h => (by cases h), hs⟩
  | cons reply rest => exact ⟨hs reply List.mem_cons_self, fun x h => hs x (List.mem_cons_of_mem _ h)⟩

end PaymentDesk
