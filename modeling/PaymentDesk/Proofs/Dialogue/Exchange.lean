import PaymentDesk.Dialogue
import PaymentDesk.Transport.Recording

/-!
# What a dialogue asks of the service

An exchange is a request with its reply. `Dialogue.Ensures` says that the exchanges of a dialogue satisfy a condition
together with its result, whatever lines, times and replies it gets and wherever the terminal fails; where the dialogue
ends without a result, the condition has to hold of the exchanges made until then.

Played over the recording transport, such a dialogue leaves the requests of its exchanges behind, and their replies are
those that were queued (`Dialogue.Ensures.run`).
-/

namespace PaymentDesk

open Text

/-- A request with the reply to it. -/
abbrev Exchange := Request × Reply

/-! ## The recording transport -/

namespace Recording

/-- The answer to a request, counted from now on. -/
def reply (i : Nat) (t : Recording) : Reply := t.replies[i]?.getD fallback

/-- Some exchanges lead from one state of the transport to another. -/
structure Exchanged (t : Recording) (xs : List Exchange) (t' : Recording) : Prop where
  requests : t'.requests = t.requests ++ xs.map Prod.fst
  replies : xs.map Prod.snd = (List.range xs.length).map (t.reply ·)
  left : t'.replies = t.replies.drop xs.length

theorem Exchanged.refl (t : Recording) : t.Exchanged [] t := ⟨by simp, rfl, rfl⟩

theorem Exchanged.trans {t₀ t₁ t₂ : Recording} {xs ys : List Exchange} (h : t₀.Exchanged xs t₁)
    (h' : t₁.Exchanged ys t₂) : t₀.Exchanged (xs ++ ys) t₂ where
  requests := by rw [h'.requests, h.requests, List.map_append, List.append_assoc]
  replies := by
    have later : t₁.reply = fun i => t₀.reply (xs.length + i) := by
      funext i
      simp only [reply, h.left, List.getElem?_drop]
    rw [List.map_append, h.replies, h'.replies, later, List.length_append, List.range_add, List.map_append,
      List.map_map]
    rfl
  left := by rw [h'.left, h.left, List.drop_drop, List.length_append]

theorem exchanged_send (r : Request) (t : Recording) : t.Exchanged [(r, (send r t).1)] (send r t).2.2 := by
  obtain ⟨requests, replies⟩ := t
  cases replies with
  | nil => exact ⟨rfl, rfl, rfl⟩
  | cons reply rest => exact ⟨rfl, rfl, rfl⟩

end Recording

namespace Dialogue

variable {α β : Type} {L : List Char → Prop} {P : List Exchange → Option α → Prop}
  {Q : List Exchange → Option β → Prop}

/-- Whatever happens, the exchanges and the result satisfy the condition; the lines that can be read satisfy `L`. -/
def Ensures (L : List Char → Prop) : Dialogue α → (List Exchange → Option α → Prop) → Prop
  | done a, P => P [] (some a)
  | fail _, P => P [] none
  | write _ _ next, P => P [] none ∧ next.Ensures L P
  | flush next, P => P [] none ∧ next.Ensures L P
  | read next, P => P [] none ∧ (next none).Ensures L P ∧ ∀ l, L l → (next (some l)).Ensures L P
  | note _ next, P => next.Ensures L P
  | time next, P => ∀ t, (next t).Ensures L P
  | send r next, P => ∀ reply, (next reply).Ensures L fun xs a => P ((r, reply) :: xs) a

theorem Ensures.mono {P' : List Exchange → Option α → Prop} {d : Dialogue α} (hd : d.Ensures L P)
    (h : ∀ xs a, P xs a → P' xs a) : d.Ensures L P' := by
  induction d generalizing P P' with
  | done a => exact h _ _ hd
  | fail e => exact h _ _ hd
  | write p t next ih => exact ⟨h _ _ hd.1, ih hd.2 h⟩
  | flush next ih => exact ⟨h _ _ hd.1, ih hd.2 h⟩
  | read next ih => exact ⟨h _ _ hd.1, ih none hd.2.1 h, fun l hl => ih (some l) (hd.2.2 l hl) h⟩
  | note r next ih => exact ih hd h
  | time next ih => exact fun t => ih t (hd t) h
  | send r next ih => exact fun reply => ih reply (hd reply) fun xs a => h ((r, reply) :: xs) a

/-- A dialogue in two parts makes the exchanges of the first, and then those of the second if there is a result to go
on with. -/
theorem Ensures.bind {d : Dialogue α} {f : α → Dialogue β} (hd : d.Ensures L P) (broken : ∀ xs, P xs none → Q xs none)
    (hf : ∀ xs a, P xs (some a) → (f a).Ensures L fun ys b => Q (xs ++ ys) b) : (d >>= f).Ensures L Q := by
  show (d.bind f).Ensures L Q
  induction d generalizing P Q with
  | done a => exact hf [] a hd
  | fail e => exact broken [] hd
  | write p t next ih => exact ⟨broken [] hd.1, ih hd.2 broken hf⟩
  | flush next ih => exact ⟨broken [] hd.1, ih hd.2 broken hf⟩
  | read next ih =>
    exact ⟨broken [] hd.1, ih none hd.2.1 broken hf, fun l hl => ih (some l) (hd.2.2 l hl) broken hf⟩
  | note r next ih => exact ih hd broken hf
  | time next ih => exact fun t => ih t (hd t) broken hf
  | send r next ih =>
    exact fun reply => ih reply (hd reply) (fun xs => broken ((r, reply) :: xs))
      fun xs a => hf ((r, reply) :: xs) a

/-- **The exchanges of a dialogue over the recording transport.** -/
theorem Ensures.run {d : Dialogue α} (clock : Nat → Int) (hd : d.Ensures L P) (w : World Recording)
    (lines : ∀ bytes ∈ w.input, ∀ l, Utf8.decode? bytes = some l → L l) :
    ∃ xs, P xs (d.run ⟨Recording.transport, clock⟩ w).1.toOption ∧
      w.transport.Exchanged xs (d.run ⟨Recording.transport, clock⟩ w).2.transport ∧
      (d.run ⟨Recording.transport, clock⟩ w).2.input <:+ w.input := by
  induction d generalizing P w with
  | done a => exact ⟨[], hd, .refl _, List.suffix_refl _⟩
  | fail e => exact ⟨[], hd, .refl _, List.suffix_refl _⟩
  | write p t next ih =>
    simp only [Dialogue.run]
    rcases w.sink.write (Utf8.encode t) with ⟨⟨⟩ | ⟨⟩, s⟩
    · exact ⟨[], hd.1, .refl _, List.suffix_refl _⟩
    · exact ih hd.2 { w with sink := s } lines
  | flush next ih =>
    simp only [Dialogue.run]
    rcases w.sink.flush with ⟨⟨⟩ | ⟨⟩, s⟩
    · exact ⟨[], hd.1, .refl _, List.suffix_refl _⟩
    · exact ih hd.2 { w with sink := s } lines
  | read next ih =>
    simp only [Dialogue.run]
    cases hw : w.input with
    | nil =>
      have := ih none hd.2.1 w lines
      rwa [hw] at this
    | cons bytes rest =>
      have here : bytes ∈ w.input := hw ▸ List.mem_cons_self
      have rest_lines : ∀ b ∈ rest, ∀ l, Utf8.decode? b = some l → L l := fun b hb =>
        lines b (hw ▸ List.mem_cons_of_mem _ hb)
      simp only
      cases hl : Utf8.decode? bytes with
      | none => exact ⟨[], hd.1, .refl _, List.suffix_cons _ _⟩
      | some l =>
        obtain ⟨xs, hP, hx, hsuffix⟩ := ih (some l) (hd.2.2 l (lines bytes here l hl)) { w with input := rest }
          rest_lines
        exact ⟨xs, hP, hx, hsuffix.trans (List.suffix_cons _ _)⟩
  | note r next ih => exact ih hd { w with log := w.log ++ [r] } lines
  | time next ih => exact ih _ (hd _) { w with ticks := w.ticks + 1 } lines
  | send r next ih =>
    obtain ⟨xs, hP, hx, hsuffix⟩ := ih _ (hd (Recording.send r w.transport).1) { w with
      log := w.log ++ (Recording.send r w.transport).2.1, transport := (Recording.send r w.transport).2.2 } lines
    exact ⟨_ :: xs, hP, (Recording.exchanged_send r w.transport).trans hx, hsuffix⟩

end Dialogue

end PaymentDesk
