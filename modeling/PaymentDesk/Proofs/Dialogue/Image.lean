import PaymentDesk.Proofs.Dialogue.Simulation

/-!
# A transport as the image of another one

A map of states makes one transport the image of another when requests are answered alike, with the same records, at a
state and at its image (`Transport.IsImage`). Then all that is done over the one is done alike over the other: dialogues
(`Dialogue.run_image`), sessions (`Session.run_image`), and requests, operations and sessions in any order
(`Errand.runAll_image`). No world can tell which of the two it is played over, but by looking into the transport.
-/

namespace PaymentDesk

variable {σ τ α : Type}

/-- Requests are answered alike at a state and at its image. -/
def Transport.IsImage (T : Transport σ) (T' : Transport τ) (f : σ → τ) : Prop :=
  ∀ r s, T'.send r (f s) = ((T.send r s).1, (T.send r s).2.1, f (T.send r s).2.2)

/-- The same world around another transport. -/
def World.image (f : σ → τ) (w : World σ) : World τ where
  input := w.input
  sink := w.sink
  log := w.log
  ticks := w.ticks
  transport := f w.transport

section Runs

variable {T : Transport σ} {T' : Transport τ} {f : σ → τ} (h : T.IsImage T' f) (clock : Nat → Int)
include h

/-- **Dialogues end alike.** -/
theorem Dialogue.run_image (d : Dialogue α) (w : World σ) : d.run ⟨T', clock⟩ (w.image f) =
    ((d.run ⟨T, clock⟩ w).1, (d.run ⟨T, clock⟩ w).2.image f) := by
  induction d generalizing w with
  | done a => rfl
  | fail err => rfl
  | write p t next ih =>
    rw [run, run, show (w.image f).sink = w.sink from rfl]
    rcases w.sink.write (Text.Utf8.encode t) with ⟨⟨⟩ | ⟨⟩, s⟩
    · rfl
    · exact ih { w with sink := s }
  | flush next ih =>
    rw [run, run, show (w.image f).sink = w.sink from rfl]
    rcases w.sink.flush with ⟨⟨⟩ | ⟨⟩, s⟩
    · rfl
    · exact ih { w with sink := s }
  | read next ih =>
    rw [run, run, show (w.image f).input = w.input from rfl]
    cases w.input with
    | nil => exact ih none w
    | cons bytes rest =>
      simp only
      cases Text.Utf8.decode? bytes with
      | none => rfl
      | some text => exact ih (some text) { w with input := rest }
  | note r next ih => exact ih { w with log := w.log ++ [r] }
  | time next ih => exact ih _ { w with ticks := w.ticks + 1 }
  | send r next ih =>
    have hsend := h r w.transport
    rw [run, run, show (w.image f).transport = f w.transport from rfl, hsend]
    exact ih _ { w with log := w.log ++ (T.send r w.transport).2.1, transport := (T.send r w.transport).2.2 }

/-- **Sessions end alike.** -/
theorem Session.run_image (v : Variant) (w : World σ) : run ⟨T', clock⟩ v (w.image f) =
    ((run ⟨T, clock⟩ v w).1, (run ⟨T, clock⟩ v w).2.image f) := by
  induction w using Session.run.induct ⟨T, clock⟩ v with
  | case1 w err w' hround =>
    have hround' := Dialogue.run_image h clock (round v) w
    rw [hround] at hround'
    rw [run_of_error hround, run_of_error hround']
  | case2 w w' hround =>
    have hround' := Dialogue.run_image h clock (round v) w
    rw [hround] at hround'
    rw [run_of_over hround, run_of_over hround']
  | case3 w w' hround ih =>
    have hround' := Dialogue.run_image h clock (round v) w
    rw [hround] at hround'
    rw [run_of_again hround, run_of_again hround', ih]

theorem Call.run_image (v : Variant) (c : Call) (w : World σ) : c.run ⟨T', clock⟩ v (w.image f) =
    ((c.run ⟨T, clock⟩ v w).1, (c.run ⟨T, clock⟩ v w).2.image f) := by
  cases c with
  | operation op =>
    have hop := Dialogue.run_image h clock (op.perform v) w
    rw [run, run, hop]
  | session input sink =>
    have hsession := Session.run_image h clock v { w with input, sink }
    have hstart : World.image f { w with input, sink } = { w.image f with input, sink } := rfl
    rw [hstart] at hsession
    rw [run, run, hsession]
    rfl

end Runs

/-! ## Errands -/

/-- What a transport is used for: a request of its own, or a call of the desk in one of its variants. -/
inductive Errand where
  | send (request : Request)
  | call (variant : Variant) (call : Call)

/-- What came of an errand. -/
inductive Errand.Result where
  | reply (reply : Reply)
  | call (result : Call.Result)

namespace Errand

/-- Does an errand. -/
def run (e : Setting σ) : Errand → World σ → Result × World σ
  | send r, w =>
    let sent := e.transport.send r w.transport
    (.reply sent.1, { w with log := w.log ++ sent.2.1, transport := sent.2.2 })
  | call v c, w => (.call (c.run e v w).1, (c.run e v w).2)

/-- Does errands one after the other. -/
def runAll (e : Setting σ) : List Errand → World σ → List Result × World σ
  | [], w => ([], w)
  | x :: xs, w => ((x.run e w).1 :: (runAll e xs (x.run e w).2).1, (runAll e xs (x.run e w).2).2)

variable {T : Transport σ} {T' : Transport τ} {f : σ → τ} (h : T.IsImage T' f) (clock : Nat → Int)
include h

theorem run_image (x : Errand) (w : World σ) : x.run ⟨T', clock⟩ (w.image f) =
    ((x.run ⟨T, clock⟩ w).1, (x.run ⟨T, clock⟩ w).2.image f) := by
  cases x with
  | send r =>
    have hsend := h r w.transport
    rw [run, run, show (w.image f).transport = f w.transport from rfl, hsend]
    rfl
  | call v c =>
    have hcall := Call.run_image h clock v c w
    rw [run, run, hcall]

/-- **Errands come to the same**, one after the other. -/
theorem runAll_image : ∀ (xs : List Errand) (w : World σ), runAll ⟨T', clock⟩ xs (w.image f) =
    ((runAll ⟨T, clock⟩ xs w).1, (runAll ⟨T, clock⟩ xs w).2.image f)
  | [], _ => rfl
  | x :: xs, w => by
    have hfirst := run_image h clock x w
    have hrest := runAll_image xs (x.run ⟨T, clock⟩ w).2
    rw [runAll, runAll, hfirst, hrest]

end Errand

end PaymentDesk
