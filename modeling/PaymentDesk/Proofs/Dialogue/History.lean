import PaymentDesk.Proofs.Dialogue.Boundless
import PaymentDesk.Proofs.Sink
import PaymentDesk.Transport.Recording

/-!
# Dialogues over a sink that fails

The history of a dialogue is what it writes, flushes and sends, in order, when its sink takes everything
(`Dialogue.history`). **Over a sink with limits a dialogue is broken off at the first event of its history that the sink
refuses** (`Dialogue.cut_run`): what it has written and sent by then is all that it ever writes and sends, and it ends
with the error of the sink. If the sink refuses nothing, the dialogue ends as it would have.
-/

namespace PaymentDesk

open Text

/-! ## Two runs -/

/-- A run over a sink that may fail, beside the whole run; `asked` is what was asked before them. The run leaves behind
what its sink took, and ends with the error of the sink, or just as the whole run, the sink apart. -/
structure Cut {α : Type} (asked : List Request) (p : Sink.Played) (whole cut : Except Error α × World Recording) :
    Prop where
  sink : cut.2.sink = p.sink
  requests : cut.2.transport.requests = asked ++ requested p.taken
  whole_of_none : p.fault = none → cut = (whole.1, { whole.2 with sink := p.sink })
  error_of_some : ∀ f, p.fault = some f → ∃ part : Part, cut.1 = .error (part.error f)

namespace Cut

variable {α : Type} {asked : List Request} {p : Sink.Played} {whole cut : Except Error α × World Recording}

/-- An event that was taken, and then the rest. -/
theorem after {ev : Event} (h : Cut (asked ++ requested [ev]) p whole cut) : Cut asked (p.after ev) whole cut where
  sink := h.sink
  requests := by
    rw [h.requests, List.append_assoc, ← requested_append]
    rfl
  whole_of_none := h.whole_of_none
  error_of_some := h.error_of_some

/-- An event that was taken and is no request. -/
theorem after_silent {ev : Event} (hev : ev.request? = none) (h : Cut asked p whole cut) :
    Cut asked (p.after ev) whole cut := by
  refine after ?_
  rwa [requested, List.filterMap_cons_none hev, List.filterMap_nil, List.append_nil]

/-- Both runs are over, and the sink was not even asked. -/
theorem ended (r : Except Error α) (w : World Recording) (s : Sink) :
    Cut w.transport.requests ⟨[], s, none⟩ (r, w) (r, { w with sink := s }) where
  sink := rfl
  requests := (List.append_nil _).symm
  whole_of_none := fun _ => rfl
  error_of_some := nofun

/-- A refusal ends everything. -/
theorem refused (w : World Recording) (s : Sink) (f : Sink.Fault) (part : Part) :
    Cut w.transport.requests ⟨[], s, some f⟩ whole (.error (part.error f), { w with sink := s }) where
  sink := rfl
  requests := (List.append_nil _).symm
  whole_of_none := nofun
  error_of_some := fun g hg => ⟨part, by cases hg; rfl⟩

/-- A run that was broken off stays so, whatever would have come after it. -/
theorem of_fault {β : Type} {f : Sink.Fault} (h : Cut asked p whole cut) (hf : p.fault = some f)
    (later : Except Error β × World Recording) : ∃ err, cut.1 = .error err ∧ Cut asked p later (.error err, cut.2) := by
  obtain ⟨part, herr⟩ := h.error_of_some f hf
  refine ⟨part.error f, herr, h.sink, h.requests, fun hn => ?_, fun g hg => ⟨part, ?_⟩⟩
  · rw [hf] at hn
    cases hn
  · rw [hf] at hg
    cases hg
    rfl

/-- A run that was not broken off goes on where the whole run goes on. -/
theorem followed {β : Type} {later : Sink.Played} {whole' cut' : Except Error β × World Recording}
    (h : Cut asked p whole cut) (hf : p.fault = none) (h' : Cut whole.2.transport.requests later whole' cut') :
    Cut asked { later with taken := p.taken ++ later.taken } whole' cut' where
  sink := h'.sink
  requests := by
    have hrequests := h.requests
    rw [h.whole_of_none hf] at hrequests
    rw [h'.requests, requested_append, ← List.append_assoc]
    exact congrArg (· ++ requested later.taken) hrequests
  whole_of_none := h'.whole_of_none
  error_of_some := h'.error_of_some

theorem error_of_ne_none (h : Cut asked p whole cut) (hf : p.fault ≠ none) : ∃ err, cut.1 = .error err := by
  obtain ⟨f, hf⟩ := Option.ne_none_iff_exists'.mp hf
  obtain ⟨part, herr⟩ := h.error_of_some f hf
  exact ⟨_, herr⟩

section Limits

variable {s : Sink} {events : List Event}

/-- What is sent is how the whole run begins to send. -/
theorem requests_isPrefix (h : Cut asked (s.play events) whole cut)
    (hrequests : whole.2.transport.requests = asked ++ requested events) :
    cut.2.transport.requests <+: whole.2.transport.requests := by
  rw [h.requests, hrequests]
  exact (List.prefix_append_right_inj _).mpr (requested_mono (s.taken_play_isPrefix events))

/-- With room for `n` bytes, the first `n` bytes come out, and the run fails exactly if there are more. -/
theorem of_writeLimit {n : Nat} (h : Cut asked (({ writeLimit := some n } : Sink).play events) whole cut)
    (hstored : whole.2.sink.stored = written events) : cut.2.sink.stored = whole.2.sink.stored.take n ∧
      if whole.2.sink.stored.length ≤ n then cut.1 = whole.1 else ∃ err, cut.1 = .error err := by
  obtain ⟨htake, hfault⟩ := Sink.play_writeLimit (s := { writeLimit := some n }) rfl rfl ⟨by simp, nofun⟩ events
  rw [hstored]
  refine ⟨by rw [h.sink, htake]; rfl, ?_⟩
  split
  · next hle => rw [h.whole_of_none (hfault.mpr hle)]
  · next hle => exact h.error_of_ne_none (mt hfault.mp hle)

/-- With `m` flushes allowed, the run fails exactly if there are more, and then just before the next one. -/
theorem of_flushLimit {m : Nat} (h : Cut asked (({ flushLimit := some m } : Sink).play events) whole cut)
    (hstored : whole.2.sink.stored = written events) (hflushes : whole.2.sink.flushes = flushCount events) :
    cut.2.sink.stored <+: whole.2.sink.stored ∧
      if whole.2.sink.flushes ≤ m then cut.1 = whole.1
      else (∃ err, cut.1 = .error err) ∧ ∃ before after, events = before ++ .flushed :: after ∧
        flushCount before = m ∧ cut.2.sink.stored = written before ∧
        cut.2.transport.requests = asked ++ requested before := by
  obtain ⟨htaken, hfault, hnext⟩ := Sink.play_flushLimit (s := { flushLimit := some m }) rfl rfl ⟨nofun, by simp⟩ events
  simp only [Nat.zero_add] at hfault hnext
  have hout : cut.2.sink.stored = written (({ flushLimit := some m } : Sink).play events).taken := by
    rw [h.sink, htaken]
    rfl
  rw [hstored, hflushes]
  refine ⟨?_, ?_⟩
  · rw [hout]
    exact written_mono (Sink.taken_play_isPrefix _ events)
  · split
    · next hle => rw [h.whole_of_none (hfault.mpr hle)]
    · next hle =>
      obtain ⟨hcount, after, hafter⟩ := hnext (mt hfault.mp hle)
      exact ⟨h.error_of_ne_none (mt hfault.mp hle), _, after, hafter, hcount, hout, h.requests⟩

end Limits

end Cut

/-! ## Dialogues -/

namespace Dialogue

variable {α σ : Type}

/-- What a dialogue writes, flushes and sends over a sink that takes everything. -/
def history (e : Setting σ) : Dialogue α → World σ → List Event
  | done _, _ => []
  | fail _, _ => []
  | write _ text next, w =>
    .wrote (Utf8.encode text) :: next.history e { w with sink := (w.sink.write (Utf8.encode text)).2 }
  | flush next, w => .flushed :: next.history e { w with sink := w.sink.flush.2 }
  | read next, w =>
    match w.input with
    | [] => (next none).history e w
    | bytes :: rest =>
      match Utf8.decode? bytes with
      | some text => (next (some text)).history e { w with input := rest }
      | none => []
  | note r next, w => next.history e { w with log := w.log ++ [r] }
  | time next, w => (next (e.clock w.ticks)).history e { w with ticks := w.ticks + 1 }
  | send r next, w =>
    match e.transport.send r w.transport with
    | (reply, records, s) => .sent r :: (next reply).history e { w with log := w.log ++ records, transport := s }

/-- **A dialogue is broken off where its sink refuses.** -/
theorem cut_run (clock : Nat → Int) (d : Dialogue α) (w : World Recording) (hw : w.sink.Boundless) (s : Sink) :
    Cut w.transport.requests (s.play (d.history ⟨Recording.transport, clock⟩ w))
      (d.run ⟨Recording.transport, clock⟩ w) (d.run ⟨Recording.transport, clock⟩ { w with sink := s }) := by
  induction d generalizing w s with
  | done a => exact .ended (.ok a) w s
  | fail e => exact .ended (.error e) w s
  | write p t next ih =>
    simp only [history, run, Sink.write_boundless hw t]
    rcases hs : s.write (Utf8.encode t) with ⟨f | ⟨⟩, s'⟩
    · rw [Sink.play_of_error (show s.meet (.wrote (Utf8.encode t)) = _ from hs)]
      exact .refused w s' f p
    · rw [Sink.play_of_ok (show s.meet (.wrote (Utf8.encode t)) = _ from hs)]
      exact (ih { w with sink := w.sink.after t 0 } hw s').after_silent rfl
  | flush next ih =>
    simp only [history, run, Sink.flush_boundless hw]
    rcases hs : s.flush with ⟨f | ⟨⟩, s'⟩
    · rw [Sink.play_of_error (show s.meet .flushed = _ from hs)]
      exact .refused w s' f .prose
    · rw [Sink.play_of_ok (show s.meet .flushed = _ from hs)]
      exact (ih { w with sink := w.sink.after [] 1 } hw s').after_silent rfl
  | read next ih =>
    simp only [history, run]
    cases hi : w.input with
    | nil =>
      have := ih none w hw s
      rwa [hi] at this
    | cons bytes rest =>
      cases hl : Utf8.decode? bytes with
      | none =>
        simp only [hl]
        exact .ended _ { w with input := rest } s
      | some l =>
        simp only [hl]
        exact ih (some l) { w with input := rest } hw s
  | note r next ih => exact ih { w with log := w.log ++ [r] } hw s
  | time next ih => exact ih _ { w with ticks := w.ticks + 1 } hw s
  | send r next ih =>
    have := ih (Recording.send r w.transport).1 { w with
      log := w.log ++ (Recording.send r w.transport).2.1, transport := (Recording.send r w.transport).2.2 } hw s
    rw [Recording.requests_send] at this
    exact this.after

/-- A sink without limits takes the whole history. -/
theorem run_boundless (clock : Nat → Int) (d : Dialogue α) (w : World Recording) (hw : w.sink.Boundless) :
    (d.run ⟨Recording.transport, clock⟩ w).2.sink = w.sink.having (d.history ⟨Recording.transport, clock⟩ w) := by
  have h := (d.cut_run clock w hw w.sink).sink
  rwa [Sink.play_boundless hw.1 hw.2] at h

/-- No dialogue gives a sink limits. -/
theorem boundless_of_run {clock : Nat → Int} {d : Dialogue α} {w w' : World Recording} {r : Except Error α}
    (hw : w.sink.Boundless) (h : d.run ⟨Recording.transport, clock⟩ w = (r, w')) : w'.sink.Boundless := by
  have hsink := d.run_boundless clock w hw
  rw [h] at hsink
  rw [hsink]
  exact hw

end Dialogue

end PaymentDesk
