import PaymentDesk.Proofs.Dialogue.History
import PaymentDesk.Proofs.Session.Loop

/-!
# Sessions over a sink that fails

A session has a history, the histories of its rounds one after the other (`history`). Over a sink with limits it is
broken off at the first event of this history that the sink refuses (`cut_session`).

**`run_cut_short` compares such sessions with the whole one**: what they write and send is how the whole one begins, and
they end as it does, or with an error if the sink refused. A sink with room for some bytes refuses when they are used
up, and one that allows some flushes refuses the first flush too many.
-/

namespace PaymentDesk

namespace Session

/-! ## Histories -/

/-- What a session writes, flushes and sends over a sink that takes everything. -/
def history {σ : Type} (e : Setting σ) (v : Variant) (w : World σ) : List Event :=
  (round v).history e w ++ match _h : (round v).run e w with
    | (.ok .again, w') => history e v w'
    | (.ok .over, _) | (.error _, _) => []
termination_by w.input.length
decreasing_by exact length_input_of_round _h

section History

variable {σ : Type} {e : Setting σ} {v : Variant} {w w' : World σ}

theorem history_eq (e : Setting σ) (v : Variant) (w : World σ) :
    ∃ later, history e v w = (round v).history e w ++ later := by
  rw [history]
  exact ⟨_, rfl⟩

theorem history_of_again (h : (round v).run e w = (.ok .again, w')) :
    history e v w = (round v).history e w ++ history e v w' := by
  rw [history]
  split <;> simp_all

theorem history_of_over (h : (round v).run e w = (.ok .over, w')) : history e v w = (round v).history e w ++ [] := by
  rw [history]
  split <;> simp_all

theorem history_of_error {err : Error} (h : (round v).run e w = (.error err, w')) :
    history e v w = (round v).history e w ++ [] := by
  rw [history]
  split <;> simp_all

end History

/-! ## Runs -/

section Runs

variable (clock : Nat → Int) (v : Variant)

/-- A session whose sink refuses something in the first round is broken off there. -/
theorem cut_of_fault {w : World Recording} (hw : w.sink.Boundless) {s : Sink} {f : Sink.Fault}
    (hf : (s.play ((round v).history ⟨Recording.transport, clock⟩ w)).fault = some f) :
    Cut w.transport.requests (s.play (history ⟨Recording.transport, clock⟩ v w))
      (run ⟨Recording.transport, clock⟩ v w) (run ⟨Recording.transport, clock⟩ v { w with sink := s }) := by
  obtain ⟨err, herr, hcut⟩ := ((round v).cut_run clock w hw s).of_fault hf (run ⟨Recording.transport, clock⟩ v w)
  obtain ⟨later, hhistory⟩ := history_eq ⟨Recording.transport, clock⟩ v w
  rw [run_of_error (Prod.ext herr rfl), hhistory, Sink.play_append_of_fault hf]
  exact hcut

/-- A session that comes through its first round goes on, or ends, as the whole one does. -/
theorem cut_of_round {w w' : World Recording} (hw : w.sink.Boundless) {outcome : Except Error Turn}
    (h : (round v).run ⟨Recording.transport, clock⟩ w = (outcome, w')) {later : List Event}
    (hlater : history ⟨Recording.transport, clock⟩ v w = (round v).history ⟨Recording.transport, clock⟩ w ++ later)
    (s : Sink) (goesOn : ∀ s' : Sink,
      (round v).run ⟨Recording.transport, clock⟩ { w with sink := s } = (outcome, { w' with sink := s' }) →
      Cut w'.transport.requests (s'.play later)
        (run ⟨Recording.transport, clock⟩ v w) (run ⟨Recording.transport, clock⟩ v { w with sink := s })) :
    Cut w.transport.requests (s.play (history ⟨Recording.transport, clock⟩ v w))
      (run ⟨Recording.transport, clock⟩ v w) (run ⟨Recording.transport, clock⟩ v { w with sink := s }) := by
  cases hf : (s.play ((round v).history ⟨Recording.transport, clock⟩ w)).fault with
  | some f => exact cut_of_fault clock v hw hf
  | none =>
    have hround := (round v).cut_run clock w hw s
    have hs := hround.whole_of_none hf
    rw [h] at hround hs
    rw [hlater, Sink.play_append_of_none hf]
    exact hround.followed hf (goesOn _ hs)

/-- **A session is broken off where its sink refuses.** -/
theorem cut_session (w : World Recording) (hw : w.sink.Boundless) (s : Sink) :
    Cut w.transport.requests (s.play (history ⟨Recording.transport, clock⟩ v w))
      (run ⟨Recording.transport, clock⟩ v w) (run ⟨Recording.transport, clock⟩ v { w with sink := s }) := by
  induction w using Session.run.induct ⟨Recording.transport, clock⟩ v generalizing s with
  | case1 w err w' h =>
    refine cut_of_round clock v hw h (history_of_error h) s fun s' hs => ?_
    rw [run_of_error h, run_of_error hs]
    exact .ended (.error err) w' s'
  | case2 w w' h =>
    refine cut_of_round clock v hw h (history_of_over h) s fun s' hs => ?_
    rw [run_of_over h, run_of_over hs]
    exact .ended (.ok ()) w' s'
  | case3 w w' h ih =>
    have hw' : w'.sink.Boundless := Dialogue.boundless_of_run hw h
    refine cut_of_round clock v hw h (history_of_again h) s fun s' hs => ?_
    rw [run_of_again h, run_of_again hs]
    exact ih hw' s'

/-- A session over a sink without limits leaves its history behind. -/
theorem run_whole (w : World Recording) (hw : w.sink.Boundless) :
    (run ⟨Recording.transport, clock⟩ v w).2.sink = w.sink.having (history ⟨Recording.transport, clock⟩ v w) ∧
      (run ⟨Recording.transport, clock⟩ v w).2.transport.requests =
        w.transport.requests ++ requested (history ⟨Recording.transport, clock⟩ v w) := by
  have h := cut_session clock v w hw w.sink
  rw [Sink.play_boundless hw.1 hw.2] at h
  exact ⟨h.sink, h.requests⟩

/-- **Output failure cuts a session short and does nothing else.** Over any sink a session leaves behind what the sink
takes of its history. Over a sink with room for `n` bytes, or one that allows `m` flushes, it writes and sends how the
whole session begins, and ends like it, or with an error if there is more to write or to flush; and after a flush that
failed it neither writes nor sends anything. -/
theorem run_cut_short (w : World Recording) :
    let whole := run ⟨Recording.transport, clock⟩ v { w with sink := {} }
    let events := history ⟨Recording.transport, clock⟩ v { w with sink := {} }
    let through := fun s : Sink => run ⟨Recording.transport, clock⟩ v { w with sink := s }
    (whole.2.sink.stored = written events ∧ whole.2.sink.flushes = flushCount events ∧
      whole.2.transport.requests = w.transport.requests ++ requested events) ∧
    (∀ s, Cut w.transport.requests (s.play events) whole (through s)) ∧
    (∀ n, let cut := through { writeLimit := some n }
      cut.2.sink.stored = whole.2.sink.stored.take n ∧ cut.2.transport.requests <+: whole.2.transport.requests ∧
      if whole.2.sink.stored.length ≤ n then cut.1 = whole.1 else ∃ err, cut.1 = .error err) ∧
    ∀ m, let cut := through { flushLimit := some m }
      cut.2.sink.stored <+: whole.2.sink.stored ∧ cut.2.transport.requests <+: whole.2.transport.requests ∧
      if whole.2.sink.flushes ≤ m then cut.1 = whole.1
      else (∃ err, cut.1 = .error err) ∧ ∃ before after, events = before ++ .flushed :: after ∧
        flushCount before = m ∧ cut.2.sink.stored = written before ∧
        cut.2.transport.requests = w.transport.requests ++ requested before := by
  intro whole events through
  obtain ⟨hsink, hrequests⟩ := run_whole clock v { w with sink := {} } ⟨rfl, rfl⟩
  have hstored : whole.2.sink.stored = written events := congrArg Sink.stored hsink
  have hflushes : whole.2.sink.flushes = flushCount events :=
    (congrArg Sink.flushes hsink).trans (Nat.zero_add _)
  have cuts (s : Sink) : Cut w.transport.requests (s.play events) whole (through s) :=
    cut_session clock v { w with sink := {} } ⟨rfl, rfl⟩ s
  refine ⟨⟨hstored, hflushes, hrequests⟩, cuts, fun n => ?_, fun m => ?_⟩
  · obtain ⟨htake, hend⟩ := (cuts { writeLimit := some n }).of_writeLimit hstored
    exact ⟨htake, (cuts _).requests_isPrefix hrequests, hend⟩
  · obtain ⟨hbegins, hend⟩ := (cuts { flushLimit := some m }).of_flushLimit hstored hflushes
    exact ⟨hbegins, (cuts _).requests_isPrefix hrequests, hend⟩

end Runs

end Session

end PaymentDesk
