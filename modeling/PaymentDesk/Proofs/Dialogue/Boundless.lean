import PaymentDesk.Dialogue
import PaymentDesk.Proofs.Text.Utf8

/-!
# Dialogues over a terminal that does not fail

A sink without limits takes every text (`Sink.Boundless`). Over such a sink, and lines that are all UTF-8, each step at
the terminal has one outcome: what is said is stored (`World.shown`), and the next line is read as it was written.
-/

namespace PaymentDesk

open Text

/-! ## The sink -/

namespace Sink

/-- The sink has no limits. -/
def Boundless (s : Sink) : Prop := s.writeLimit = none ∧ s.flushLimit = none

/-- The sink after some text and some flushes. -/
def after (text : List Char) (flushes : Nat) (s : Sink) : Sink :=
  { s with stored := s.stored ++ Utf8.encode text, flushes := s.flushes + flushes }

variable {s : Sink}

@[simp] theorem boundless_after {t : List Char} {n : Nat} : (s.after t n).Boundless ↔ s.Boundless := Iff.rfl

@[simp] theorem after_after (t t' : List Char) (n n' : Nat) : (s.after t n).after t' n' = s.after (t ++ t') (n + n') := by
  simp [after, Utf8.encode_append, Nat.add_assoc]

theorem Boundless.eq_mk (h : s.Boundless) : s = ⟨s.stored, s.flushes, none, none⟩ := by
  obtain ⟨stored, flushes, writeLimit, flushLimit⟩ := s
  obtain ⟨rfl, rfl⟩ := h
  rfl

theorem after_nil : s.after [] 0 = s := by simp [after, Utf8.encode]

theorem write_boundless (h : s.Boundless) (t : List Char) : s.write (Utf8.encode t) = (.ok (), s.after t 0) := by
  simp [write, h.1, after]

theorem flush_boundless (h : s.Boundless) : s.flush = (.ok (), s.after [] 1) := by
  simp [flush, h.2, after, Utf8.encode]

end Sink

/-! ## Steps at the terminal -/

variable {σ : Type}

/-- The world after some text was shown. -/
def World.shown (text : List Char) (flushes : Nat) (w : World σ) : World σ :=
  { w with sink := w.sink.after text flushes }

@[simp] theorem World.sink_shown (t : List Char) (n : Nat) (w : World σ) : (w.shown t n).sink = w.sink.after t n := rfl

namespace Dialogue

variable {e : Setting σ} {w : World σ}

theorem run_say (h : w.sink.Boundless) (t : List Char) : (say t).run e w = (.ok (), w.shown t 0) := by
  simp only [say, run, Sink.write_boundless h]
  rfl

theorem run_flush (h : w.sink.Boundless) : (flush (pure ())).run e w = (.ok (), w.shown [] 1) := by
  simp only [run, Sink.flush_boundless h]
  rfl

/-- A line is read as it was written; there may be none. -/
theorem run_line {ls : List (List Char)} (h : w.input = ls.map Utf8.encode) :
    line.run e w = (.ok ls.head?, { w with input := ls.tail.map Utf8.encode }) := by
  cases ls with
  | nil =>
    rw [List.map_nil] at h
    simp only [line, run, h, List.head?_nil, List.tail_nil, List.map_nil]
    rw [← h]
  | cons l r =>
    rw [List.map_cons] at h
    simp only [line, run, h, Utf8.decode?_encode, List.head?_cons, List.tail_cons]

/-- A document is shown with a line end. -/
theorem run_present (h : w.sink.Boundless) (d : List Char) :
    (present d).run e w = (.ok (), w.shown (d ++ ['\n']) 1) := by
  have h₁ : (w.sink.after d 0).Boundless := h
  simp only [present, run, Sink.write_boundless h]
  rw [Sink.write_boundless h₁]
  simp only
  rw [Sink.flush_boundless (Sink.boundless_after.mpr h₁)]
  simp [World.shown]

end Dialogue

end PaymentDesk
