import PaymentDesk.Proofs.Dialogue.Simulation
import PaymentDesk.Proofs.Dialogue.Steps

/-!
# Replies that nobody looks at

A dialogue is heedless of the replies to some requests when it goes on in the same way whatever an accepted one says
(`Dialogue.Heedless`). Two queues of replies are interchangeable for the requests that they answer when they differ in
such replies only (`Interchangeable`).

**With interchangeable queues a heedless dialogue runs in the same way**, and what is left of the queues is
interchangeable for the requests that come later (`Dialogue.run_queued`).
-/

namespace PaymentDesk

variable {D : Request → Prop}

/-! ## Queues -/

/-- Replies that differ, if at all, in accepted ones to requests of a kind. The requests are those that they answer. -/
def Interchangeable (D : Request → Prop) (asked : List Request) (replies replies' : List Reply) : Prop :=
  ∀ i : Nat, replies'[i]? = replies[i]? ∨
    ∃ q a b, asked[i]? = some q ∧ D q ∧ replies[i]? = some (.ok a) ∧ replies'[i]? = some (.ok b)

theorem Interchangeable.tail {q : Request} {asked : List Request} {replies replies' : List Reply}
    (h : Interchangeable D (q :: asked) replies replies') : Interchangeable D asked replies.tail replies'.tail := by
  intro i
  simpa only [List.getElem?_tail, List.getElem?_cons_succ] using h (i + 1)

/-- The first replies are the same, or both are accepted ones to a request of the kind. -/
theorem Interchangeable.head {q : Request} {asked : List Request} {replies replies' : List Reply}
    (h : Interchangeable D (q :: asked) replies replies') :
    replies'.head? = replies.head? ∨
      ∃ a b, D q ∧ replies.head? = some (.ok a) ∧ replies'.head? = some (.ok b) := by
  simp only [List.head?_eq_getElem?]
  rcases h 0 with h | ⟨q', a, b, hq, hD, ha, hb⟩
  · exact .inl h
  · rw [List.getElem?_cons_zero, Option.some.injEq] at hq
    subst hq
    exact .inr ⟨a, b, hD, ha, hb⟩

/-- The same world with other replies queued. -/
def World.queued (replies : List Reply) (w : World Recording) : World Recording :=
  { w with transport := { w.transport with replies } }

theorem Recording.send_eq (q : Request) (t : Recording) :
    send q t = (t.replies.head?.getD fallback, [], ⟨t.requests ++ [q], t.replies.tail⟩) := by
  obtain ⟨requests, replies⟩ := t
  cases replies <;> rfl

namespace Dialogue

variable {α β : Type}

/-! ## Heedless dialogues -/

/-- Goes on in the same way whatever an accepted reply to a request of a kind says. -/
def Heedless (D : Request → Prop) : Dialogue α → Prop
  | done _ => True
  | fail _ => True
  | write _ _ next => next.Heedless D
  | flush next => next.Heedless D
  | read next => ∀ line, (next line).Heedless D
  | note _ next => next.Heedless D
  | time next => ∀ t, (next t).Heedless D
  | send q next => (D q → ∀ a b, next (.ok a) = next (.ok b)) ∧ ∀ reply, (next reply).Heedless D

theorem Heedless.bind {d : Dialogue α} {f : α → Dialogue β} (hd : d.Heedless D) (hf : ∀ a, (f a).Heedless D) :
    (d >>= f).Heedless D := by
  show (d.bind f).Heedless D
  induction d with
  | done a => exact hf a
  | fail err => exact trivial
  | write p t next ih => exact ih hd
  | flush next ih => exact ih hd
  | read next ih => exact fun line => ih line (hd line)
  | note r next ih => exact ih hd
  | time next ih => exact fun t => ih t (hd t)
  | send q next ih =>
    exact ⟨fun hq a b => congrArg (·.bind f) (hd.1 hq a b), fun reply => ih reply (hd.2 reply)⟩

/-- Talking asks for no reply. -/
theorem Talk.heedless {R : α → Prop} {d : Dialogue α} (hd : d.Talk R) : d.Heedless D := by
  induction d with
  | done a => exact trivial
  | write p t next ih => exact ih hd.2
  | flush next ih => exact ih hd
  | read next ih => exact fun line => ih line (hd line)
  | note r next ih => exact ih hd
  | _ => exact absurd hd id

/-- What a dialogue asks comes after what was asked before. -/
theorem exists_requests_run (clock : Nat → Int) (d : Dialogue α) (w : World Recording) : ∃ asked,
    (d.run ⟨Recording.transport, clock⟩ w).2.transport.requests = w.transport.requests ++ asked := by
  obtain ⟨asked, h⟩ := d.requests_run clock w
  exact ⟨asked, h.symm⟩

/-- **A heedless dialogue runs in the same way over interchangeable queues.** -/
theorem run_queued (clock : Nat → Int) {d : Dialogue α} (hd : d.Heedless D) (w : World Recording)
    {asked later : List Request} {replies : List Reply}
    (hasked : (d.run ⟨Recording.transport, clock⟩ w).2.transport.requests = w.transport.requests ++ asked)
    (h : Interchangeable D (asked ++ later) w.transport.replies replies) :
    ∃ replies', Interchangeable D later (d.run ⟨Recording.transport, clock⟩ w).2.transport.replies replies' ∧
      d.run ⟨Recording.transport, clock⟩ (w.queued replies) =
        ((d.run ⟨Recording.transport, clock⟩ w).1, (d.run ⟨Recording.transport, clock⟩ w).2.queued replies') := by
  induction d generalizing w asked replies with
  | done a =>
    obtain rfl : asked = [] := List.self_eq_append_right.mp hasked
    exact ⟨replies, h, rfl⟩
  | fail err =>
    obtain rfl : asked = [] := List.self_eq_append_right.mp hasked
    exact ⟨replies, h, rfl⟩
  | write p t next ih =>
    simp only [run] at hasked ⊢
    simp only [World.queued]
    rcases hs : w.sink.write (Text.Utf8.encode t) with ⟨f | ⟨⟩, s⟩ <;> rw [hs] at hasked
    · obtain rfl : asked = [] := List.self_eq_append_right.mp hasked
      exact ⟨replies, h, rfl⟩
    · exact ih hd { w with sink := s } hasked h
  | flush next ih =>
    simp only [run] at hasked ⊢
    simp only [World.queued]
    rcases hs : w.sink.flush with ⟨f | ⟨⟩, s⟩ <;> rw [hs] at hasked
    · obtain rfl : asked = [] := List.self_eq_append_right.mp hasked
      exact ⟨replies, h, rfl⟩
    · exact ih hd { w with sink := s } hasked h
  | read next ih =>
    simp only [run] at hasked ⊢
    simp only [World.queued]
    cases hi : w.input with
    | nil =>
      rw [hi] at hasked
      have hnext := ih none (hd none) w hasked h
      simp only [World.queued, hi] at hnext
      exact hnext
    | cons bytes rest =>
      rw [hi] at hasked
      simp only at hasked ⊢
      cases hl : Text.Utf8.decode? bytes with
      | none =>
        rw [hl] at hasked
        obtain rfl : asked = [] := List.self_eq_append_right.mp hasked
        exact ⟨replies, h, rfl⟩
      | some l =>
        rw [hl] at hasked
        exact ih (some l) (hd _) { w with input := rest } hasked h
  | note r next ih => exact ih hd { w with log := w.log ++ [r] } hasked h
  | time next ih => exact ih _ (hd _) { w with ticks := w.ticks + 1 } hasked h
  | send q next ih =>
    simp only [run, Recording.transport, Recording.send_eq] at hasked ⊢
    -- the request is the first one that was asked
    obtain ⟨asked', h'⟩ := exists_requests_run clock (next (w.transport.replies.head?.getD Recording.fallback))
      { w with log := w.log ++ [], transport := ⟨w.transport.requests ++ [q], w.transport.replies.tail⟩ }
    obtain rfl : asked = q :: asked' := by
      have := hasked.symm.trans h'
      rw [List.append_assoc] at this
      exact List.append_cancel_left this
    have hrun := ih _ (hd.2 _) _ h' h.tail
    have hreply : next (replies.head?.getD Recording.fallback) =
        next (w.transport.replies.head?.getD Recording.fallback) := by
      rcases h.head with hhead | ⟨a, b, hq, ha, hb⟩
      · rw [hhead]
      · rw [ha, hb]
        exact hd.1 hq b a
    simp only [World.queued] at hrun ⊢
    rw [hreply]
    exact hrun

end Dialogue

end PaymentDesk
