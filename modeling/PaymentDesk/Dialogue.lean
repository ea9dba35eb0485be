import PaymentDesk.Request
import PaymentDesk.Sink
import PaymentDesk.Text.Utf8

/-!
# Dialogues

A dialogue says, step by step, what a conversation with the operator and the service does: it writes, flushes, reads a
line, writes a log record, reads the clock, or sends a request, and how it goes on may depend on the line, the time or
the reply. It knows nothing of terminals and networks: `Dialogue.run` plays it against a `World`.

A dialogue ends with a result, or fails with an error. Writing, flushing and reading may fail too, and then the dialogue
is over: nothing after the failure happens.
-/

namespace PaymentDesk

open Text

/-- What a written text is part of: an ordinary text, or a document that is being written out. -/
inductive Part where
  | prose
  | document
  deriving DecidableEq, Repr

/-- The error for a write that the sink refuses. -/
def Part.error (p : Part) (f : Sink.Fault) : Error :=
  match p with
  | .prose => .io f.message
  | .document => .json f.message

/-- A conversation that ends with a result in `α`. -/
inductive Dialogue (α : Type) where
  | done (a : α)
  | fail (e : Error)
  | write (part : Part) (text : List Char) (next : Dialogue α)
  | flush (next : Dialogue α)
  | read (next : Option (List Char) → Dialogue α)
  | note (record : Log.Record) (next : Dialogue α)
  | time (next : Int → Dialogue α)
  | send (request : Request) (next : Reply → Dialogue α)

namespace Dialogue

variable {α β σ : Type}

/-- Goes on with `f` where a dialogue ends with a result. -/
def bind : Dialogue α → (α → Dialogue β) → Dialogue β
  | done a, f => f a
  | fail e, _ => fail e
  | write p t next, f => write p t (next.bind f)
  | flush next, f => flush (next.bind f)
  | read next, f => read fun line => (next line).bind f
  | note r next, f => note r (next.bind f)
  | time next, f => time fun t => (next t).bind f
  | send r next, f => send r fun reply => (next reply).bind f

instance : Monad Dialogue where
  pure := done
  bind := bind

/-- Writes an ordinary text. -/
def say (text : List Char) : Dialogue Unit := write .prose text (done ())

/-- Writes out a document, then ends its line and flushes. -/
def present (document : List Char) : Dialogue Unit :=
  write .document document (write .prose ['\n'] (flush (done ())))

/-- Writes a log record. -/
def log (level : Log.Level) (source : Log.Source) (text : List Char) : Dialogue Unit :=
  note ⟨level, source, text⟩ (done ())

/-- Reads a line. -/
def line : Dialogue (Option (List Char)) := read done

/-- Sends a request. -/
def request (r : Request) : Dialogue Reply := send r done

end Dialogue

/-! ## Playing a dialogue -/

/-- What a dialogue acts on: the lines not yet read, the output, the log, the number of times the clock was read, and
the state of the transport. -/
structure World (σ : Type) where
  input : List (List UInt8) := []
  sink : Sink := {}
  log : List Log.Record := []
  ticks : Nat := 0
  transport : σ

/-- What does not change during a dialogue: the transport, and the seconds that the clock shows from one reading to the
next. -/
structure Setting (σ : Type) where
  transport : Transport σ
  clock : Nat → Int

/-- The error for a line that is not UTF-8. -/
def notUtf8 : Error := .io "stream did not contain valid UTF-8".toList

/-- Plays a dialogue. -/
def Dialogue.run {α σ : Type} (e : Setting σ) : Dialogue α → World σ → Except Error α × World σ
  | done a, w => (.ok a, w)
  | fail err, w => (.error err, w)
  | write p text next, w =>
    match w.sink.write (Utf8.encode text) with
    | (.ok (), s) => next.run e { w with sink := s }
    | (.error f, s) => (.error (p.error f), { w with sink := s })
  | flush next, w =>
    match w.sink.flush with
    | (.ok (), s) => next.run e { w with sink := s }
    | (.error f, s) => (.error (Part.prose.error f), { w with sink := s })
  | read next, w =>
    match w.input with
    | [] => (next none).run e w
    | bytes :: rest =>
      match Utf8.decode? bytes with
      | some text => (next (some text)).run e { w with input := rest }
      | none => (.error notUtf8, { w with input := rest })
  | note r next, w => next.run e { w with log := w.log ++ [r] }
  | time next, w => (next (e.clock w.ticks)).run e { w with ticks := w.ticks + 1 }
  | send r next, w =>
    match e.transport.send r w.transport with
    | (reply, records, s) => (next reply).run e { w with log := w.log ++ records, transport := s }

section Laws

variable {α β σ : Type} {e : Setting σ}

/-- A dialogue that goes on is played in two parts. -/
theorem Dialogue.run_bind (d : Dialogue α) (f : α → Dialogue β) (w : World σ) :
    (d >>= f).run e w = match d.run e w with
      | (.ok a, w') => (f a).run e w'
      | (.error err, w') => (.error err, w') := by
  show (d.bind f).run e w = _
  induction d generalizing w with
  | done a => rfl
  | fail err => rfl
  | write p t next ih =>
    simp only [bind, run]
    rcases w.sink.write (Utf8.encode t) with ⟨⟨⟩ | ⟨⟩, s⟩
    · rfl
    · exact ih _
  | flush next ih =>
    simp only [bind, run]
    rcases w.sink.flush with ⟨⟨⟩ | ⟨⟩, s⟩
    · rfl
    · exact ih _
  | read next ih =>
    simp only [bind, run]
    split
    · exact ih _ _
    · split
      · exact ih _ _
      · rfl
  | note r next ih => exact ih _
  | time next ih => exact ih _ _
  | send r next ih => exact ih _ _

/-- A dialogue in two parts ends with a result iff both parts do. -/
theorem Dialogue.run_bind_eq_ok {d : Dialogue α} {f : α → Dialogue β} {w w' : World σ} {b : β} :
    (d >>= f).run e w = (.ok b, w') ↔ ∃ a w₁, d.run e w = (.ok a, w₁) ∧ (f a).run e w₁ = (.ok b, w') := by
  rw [run_bind]
  rcases d.run e w with ⟨err | a, w₁⟩
  · simp
  · constructor
    · exact fun h => ⟨a, w₁, rfl, h⟩
    · rintro ⟨_, _, ⟨⟩, h⟩
      exact h

@[simp] theorem Dialogue.run_pure (a : α) (w : World σ) : (pure a : Dialogue α).run e w = (.ok a, w) := rfl

/-- No dialogue puts lines back. -/
theorem Dialogue.length_input_run_le (d : Dialogue α) (w : World σ) :
    (d.run e w).2.input.length ≤ w.input.length := by
  induction d generalizing w with
  | done a => exact Nat.le_refl _
  | fail err => exact Nat.le_refl _
  | write p t next ih =>
    simp only [run]
    rcases w.sink.write (Utf8.encode t) with ⟨⟨⟩ | ⟨⟩, s⟩
    · exact Nat.le_refl _
    · exact ih _
  | flush next ih =>
    simp only [run]
    rcases w.sink.flush with ⟨⟨⟩ | ⟨⟩, s⟩
    · exact Nat.le_refl _
    · exact ih _
  | read next ih =>
    simp only [run]
    split
    · exact ih _ _
    · next h =>
      rw [h, List.length_cons]
      split
      · exact Nat.le_trans (ih _ _) (Nat.le_succ _)
      · exact Nat.le_succ _
  | note r next ih => exact ih _
  | time next ih => exact ih _ _
  | send r next ih => exact ih _ _

/-- Nor does one that ends with a result. -/
theorem Dialogue.length_input_le_of_run {d : Dialogue α} {w w' : World σ} {r : Except Error α}
    (h : d.run e w = (r, w')) : w'.input.length ≤ w.input.length := by
  have := d.length_input_run_le (e := e) w
  rwa [h] at this

/-- Reading a line takes one off the input. -/
theorem Dialogue.length_input_of_line {w w' : World σ} {l : List Char}
    (h : Dialogue.line.run e w = (.ok (some l), w')) : w'.input.length < w.input.length := by
  simp only [line, run] at h
  split at h
  · simp at h
  · next hw =>
    split at h
    · simp only [Prod.mk.injEq] at h
      simp [← h.2, hw]
    · simp at h

end Laws

end PaymentDesk
