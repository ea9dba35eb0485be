import PaymentDesk.Proofs.Session.Loop
import PaymentDesk.Transport.Recording

/-!
# A transport in the place of the recording one

A transport mirrors the recording transport when it gives the same replies and writes records of its own only
(`Mirrors`). Nobody above the transport can tell the two apart then: dialogues (`Dialogue.run_alike`) and whole sessions
(`Session.run_alike`) end alike, and worlds that were alike stay so; and so do any calls made one after the other
(`Call.runAll_alike`). The mirror may be true for some requests only; what has been asked of the recording transport
then has to be among them.
-/

namespace PaymentDesk

/-- A part of the program that belongs to a transport. -/
def Log.Source.isTransport : Source → Bool
  | .wire | .connection | .repetition => true
  | .program | .operations | .session => false

/-- The records that no transport wrote. -/
def diagnostics (log : List Log.Record) : List Log.Record := log.filter (! ·.source.isTransport)

theorem diagnostics_append (x y : List Log.Record) : diagnostics (x ++ y) = diagnostics x ++ diagnostics y :=
  List.filter_append x y

theorem diagnostics_eq_nil {log : List Log.Record} : diagnostics log = [] ↔ ∀ r ∈ log, r.source.isTransport = true := by
  simp [diagnostics]

variable {σ α : Type}

/-- Over related states, a transport answers good requests as the recording one does, and states stay related. -/
def Mirrors (T : Transport σ) (good : Request → Prop) (R : σ → Recording → Prop) : Prop :=
  ∀ r s t, good r → R s t → (T.send r s).1 = (Recording.send r t).1 ∧ diagnostics (T.send r s).2.1 = [] ∧
    R (T.send r s).2.2 (Recording.send r t).2.2

/-- Worlds that differ in their transports only, and in what these wrote. -/
structure Alike (R : σ → Recording → Prop) (a : World σ) (b : World Recording) : Prop where
  input : a.input = b.input
  sink : a.sink = b.sink
  log : diagnostics a.log = diagnostics b.log
  ticks : a.ticks = b.ticks
  transport : R a.transport b.transport

/-! ## What has been asked -/

/-- Requests that were recorded stay so. -/
theorem Dialogue.requests_run (clock : Nat → Int) (d : Dialogue α) (w : World Recording) :
    w.transport.requests <+: (d.run ⟨Recording.transport, clock⟩ w).2.transport.requests := by
  induction d generalizing w with
  | done a => exact List.prefix_refl _
  | fail err => exact List.prefix_refl _
  | write p t next ih =>
    simp only [run]
    rcases w.sink.write (Text.Utf8.encode t) with ⟨⟨⟩ | ⟨⟩, s⟩
    · exact List.prefix_refl _
    · exact ih { w with sink := s }
  | flush next ih =>
    simp only [run]
    rcases w.sink.flush with ⟨⟨⟩ | ⟨⟩, s⟩
    · exact List.prefix_refl _
    · exact ih { w with sink := s }
  | read next ih =>
    simp only [run]
    split
    · exact ih none w
    · next bytes rest hw =>
      split
      · exact ih _ { w with input := rest }
      · exact List.prefix_refl _
  | note r next ih => exact ih { w with log := w.log ++ [r] }
  | time next ih => exact ih _ { w with ticks := w.ticks + 1 }
  | send r next ih =>
    have hsend : w.transport.requests <+: (Recording.send r w.transport).2.2.requests := by
      rw [Recording.requests_send]
      exact List.prefix_append _ _
    exact hsend.trans (ih _ { w with
      log := w.log ++ (Recording.send r w.transport).2.1, transport := (Recording.send r w.transport).2.2 })

theorem Session.requests_run (clock : Nat → Int) (v : Variant) (w : World Recording) :
    w.transport.requests <+: (run ⟨Recording.transport, clock⟩ v w).2.transport.requests := by
  induction w using Session.run.induct ⟨Recording.transport, clock⟩ v with
  | case1 w err w' h =>
    rw [run_of_error h]
    have hround := (round v).requests_run clock w
    rwa [h] at hround
  | case2 w w' h =>
    rw [run_of_over h]
    have hround := (round v).requests_run clock w
    rwa [h] at hround
  | case3 w w' h ih =>
    rw [run_of_again h]
    have hround := (round v).requests_run clock w
    rw [h] at hround
    exact hround.trans ih

/-! ## Runs -/

section Runs

variable {T : Transport σ} {clock : Nat → Int} {good : Request → Prop} {R : σ → Recording → Prop}
  {a : World σ} {b : World Recording}

/-- **Dialogues end alike.** -/
theorem Dialogue.run_alike (hT : Mirrors T good R) {d : Dialogue α} (h : Alike R a b)
    (hgood : ∀ r ∈ (d.run ⟨Recording.transport, clock⟩ b).2.transport.requests, good r) :
    (d.run ⟨T, clock⟩ a).1 = (d.run ⟨Recording.transport, clock⟩ b).1 ∧
      Alike R (d.run ⟨T, clock⟩ a).2 (d.run ⟨Recording.transport, clock⟩ b).2 := by
  induction d generalizing a b with
  | done x => exact ⟨rfl, h⟩
  | fail err => exact ⟨rfl, h⟩
  | write p t next ih =>
    simp only [run, h.sink] at hgood ⊢
    rcases hw : b.sink.write (Text.Utf8.encode t) with ⟨⟨⟩ | ⟨⟩, s⟩ <;> rw [hw] at hgood
    · exact ⟨rfl, { h with sink := rfl }⟩
    · exact ih { h with sink := rfl } hgood
  | flush next ih =>
    simp only [run, h.sink] at hgood ⊢
    rcases hw : b.sink.flush with ⟨⟨⟩ | ⟨⟩, s⟩ <;> rw [hw] at hgood
    · exact ⟨rfl, { h with sink := rfl }⟩
    · exact ih { h with sink := rfl } hgood
  | read next ih =>
    simp only [run, h.input] at hgood ⊢
    cases hb : b.input with
    | nil =>
      rw [hb] at hgood
      exact ih none h hgood
    | cons bytes rest =>
      rw [hb] at hgood
      simp only at hgood ⊢
      cases hd : Text.Utf8.decode? bytes with
      | none => exact ⟨rfl, { h with input := rfl }⟩
      | some text =>
        rw [hd] at hgood
        exact ih (some text) { h with input := rfl } hgood
  | note r next ih =>
    refine ih { h with log := ?_ } hgood
    simp only [diagnostics_append, h.log]
  | time next ih =>
    simp only [run, h.ticks] at hgood ⊢
    exact ih _ { h with ticks := rfl } hgood
  | send r next ih =>
    have hr : good r := by
      have hmem : r ∈ (Recording.send r b.transport).2.2.requests := by
        rw [Recording.requests_send]
        exact List.mem_append_right _ List.mem_cons_self
      exact hgood r ((requests_run clock (next _) { b with
        log := b.log ++ (Recording.send r b.transport).2.1, transport := (Recording.send r b.transport).2.2 }).subset hmem)
    obtain ⟨hreply, hquiet, hrel⟩ := hT r a.transport b.transport hr h.transport
    simp only [run] at hgood ⊢
    rw [hreply]
    refine ih _ { h with log := ?_, transport := hrel } hgood
    have hnone : (Recording.send r b.transport).2.1 = [] := by
      rw [Recording.send]
      split <;> rfl
    show diagnostics (a.log ++ _) = diagnostics (b.log ++ (Recording.send r b.transport).2.1)
    rw [diagnostics_append, hquiet, hnone, List.append_nil, List.append_nil, h.log]

/-- **Sessions end alike.** -/
theorem Session.run_alike (hT : Mirrors T good R) {v : Variant} (h : Alike R a b)
    (hgood : ∀ r ∈ (run ⟨Recording.transport, clock⟩ v b).2.transport.requests, good r) :
    (run ⟨T, clock⟩ v a).1 = (run ⟨Recording.transport, clock⟩ v b).1 ∧
      Alike R (run ⟨T, clock⟩ v a).2 (run ⟨Recording.transport, clock⟩ v b).2 := by
  induction b using Session.run.induct ⟨Recording.transport, clock⟩ v generalizing a with
  | case1 b err b' hb =>
    rw [run_of_error hb] at hgood ⊢
    obtain ⟨hresult, halike⟩ := Dialogue.run_alike hT (d := round v) h (by rw [hb]; exact hgood)
    rw [hb] at hresult halike
    rw [run_of_error (Prod.ext hresult rfl)]
    exact ⟨rfl, halike⟩
  | case2 b b' hb =>
    rw [run_of_over hb] at hgood ⊢
    obtain ⟨hresult, halike⟩ := Dialogue.run_alike hT (d := round v) h (by rw [hb]; exact hgood)
    rw [hb] at hresult halike
    rw [run_of_over (Prod.ext hresult rfl)]
    exact ⟨rfl, halike⟩
  | case3 b b' hb ih =>
    rw [run_of_again hb] at hgood ⊢
    obtain ⟨hresult, halike⟩ := Dialogue.run_alike hT (d := round v) h
      (by rw [hb]; exact fun r hr => hgood r ((requests_run clock v b').subset hr))
    rw [hb] at hresult halike
    rw [run_of_again (Prod.ext hresult rfl)]
    exact ih halike hgood

end Runs

/-! ## Calls -/

/-- What is asked of a desk: an operation, or a session over lines of its own. -/
inductive Call where
  | operation (op : Operation)
  | session (input : List (List UInt8)) (sink : Sink)

/-- What came of a call. A session leaves its output behind. -/
inductive Call.Result where
  | outcome (outcome : Except Error Operation.Outcome)
  | session (ending : Except Error Unit) (sink : Sink)

/-- Makes a call. -/
def Call.run (e : Setting σ) (v : Variant) : Call → World σ → Result × World σ
  | operation op, w => (.outcome ((op.perform v).run e w).1, ((op.perform v).run e w).2)
  | session input sink, w =>
    let ended := Session.run e v { w with input, sink }
    (.session ended.1 ended.2.sink, ended.2)

/-- Makes calls one after the other. -/
def Call.runAll (e : Setting σ) (v : Variant) : List Call → World σ → List Result × World σ
  | [], w => ([], w)
  | c :: cs, w => ((c.run e v w).1 :: (runAll e v cs (c.run e v w).2).1, (runAll e v cs (c.run e v w).2).2)

namespace Call

theorem requests_run (clock : Nat → Int) (v : Variant) (c : Call) (w : World Recording) :
    w.transport.requests <+: (c.run ⟨Recording.transport, clock⟩ v w).2.transport.requests := by
  cases c with
  | operation op => exact (op.perform v).requests_run clock w
  | session input sink => exact Session.requests_run clock v { w with input, sink }

theorem requests_runAll (clock : Nat → Int) (v : Variant) : ∀ (cs : List Call) (w : World Recording),
    w.transport.requests <+: (runAll ⟨Recording.transport, clock⟩ v cs w).2.transport.requests
  | [], _ => List.prefix_refl _
  | c :: cs, w => (c.requests_run clock v w).trans (requests_runAll clock v cs _)

variable {T : Transport σ} {clock : Nat → Int} {good : Request → Prop} {R : σ → Recording → Prop} {v : Variant}

theorem run_alike (hT : Mirrors T good R) (c : Call) {a : World σ} {b : World Recording} (h : Alike R a b)
    (hgood : ∀ r ∈ (c.run ⟨Recording.transport, clock⟩ v b).2.transport.requests, good r) :
    (c.run ⟨T, clock⟩ v a).1 = (c.run ⟨Recording.transport, clock⟩ v b).1 ∧
      Alike R (c.run ⟨T, clock⟩ v a).2 (c.run ⟨Recording.transport, clock⟩ v b).2 := by
  cases c with
  | operation op =>
    obtain ⟨hresult, halike⟩ := Dialogue.run_alike hT h hgood
    exact ⟨congrArg Result.outcome hresult, halike⟩
  | session input sink =>
    have hstart : Alike R { a with input, sink } { b with input, sink } := { h with input := rfl, sink := rfl }
    obtain ⟨hresult, halike⟩ := Session.run_alike hT hstart hgood
    refine ⟨?_, halike⟩
    show Result.session _ _ = Result.session _ _
    rw [hresult, halike.sink]

/-- **Calls come to the same.** -/
theorem runAll_alike (hT : Mirrors T good R) : ∀ (cs : List Call) {a : World σ} {b : World Recording}, Alike R a b →
    (∀ r ∈ (runAll ⟨Recording.transport, clock⟩ v cs b).2.transport.requests, good r) →
    (runAll ⟨T, clock⟩ v cs a).1 = (runAll ⟨Recording.transport, clock⟩ v cs b).1 ∧
      Alike R (runAll ⟨T, clock⟩ v cs a).2 (runAll ⟨Recording.transport, clock⟩ v cs b).2
  | [], _, _, h, _ => ⟨rfl, h⟩
  | c :: cs, a, b, h, hgood => by
    have hfirst : ∀ r ∈ (c.run ⟨Recording.transport, clock⟩ v b).2.transport.requests, good r := fun r hr =>
      hgood r ((requests_runAll clock v cs _).subset hr)
    obtain ⟨hresult, halike⟩ := run_alike hT c h hfirst
    obtain ⟨hresults, hend⟩ := runAll_alike hT cs halike hgood
    refine ⟨?_, hend⟩
    rw [runAll, runAll, hresult, hresults]

end Call

end PaymentDesk
