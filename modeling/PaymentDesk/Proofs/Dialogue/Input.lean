import PaymentDesk.Proofs.Dialogue.Steps

/-!
# How far a dialogue looks into its input

A dialogue takes its lines off the input one by one, and when a line is missing, the input is used up (`Consumes`,
`consumes_steps`). So no line is read after one was missing (`Consumes.none_notMem`). **A dialogue that misses no line
runs in the same way when more lines follow** (`run_followed`), and leaves them alone.
-/

namespace PaymentDesk

open Text

/-! ## Lines taken off the input -/

namespace Step

/-- A line is read, or missing. -/
def isRead : Step → Bool
  | read _ => true
  | _ => false

/-- A line is missing. -/
def isMissing : Step → Bool
  | read none => true
  | _ => false

theorem isMissing_iff {s : Step} : s.isMissing = true ↔ s = .read none := by
  cases s with
  | read line => cases line <;> simp [isMissing]
  | _ => simp [isMissing]

end Step

/-- Steps that lead from one input to another. -/
inductive Consumes : List (List UInt8) → List Step → List (List UInt8) → Prop where
  | done (input : List (List UInt8)) : Consumes input [] input
  | line {bytes : List UInt8} {input left : List (List UInt8)} {x : List Step} (rest : Consumes input x left) :
    Consumes (bytes :: input) (.read (some bytes) :: x) left
  | missing {left : List (List UInt8)} {x : List Step} (rest : Consumes [] x left) :
    Consumes [] (.read none :: x) left
  | other {s : Step} {input left : List (List UInt8)} {x : List Step} (hs : s.isRead = false)
    (rest : Consumes input x left) : Consumes input (s :: x) left

namespace Consumes

variable {input middle left : List (List UInt8)} {x y : List Step}

theorem append (hx : Consumes input x middle) (hy : Consumes middle y left) : Consumes input (x ++ y) left := by
  induction hx with
  | done _ => exact hy
  | line _ ih => exact .line (ih hy)
  | missing _ ih => exact .missing (ih hy)
  | other hs _ ih => exact .other hs (ih hy)

/-- No line is read from an empty input. -/
theorem line_notMem (h : Consumes [] x left) (bytes : List UInt8) : .read (some bytes) ∉ x := by
  generalize hi : ([] : List (List UInt8)) = input at h
  induction h with
  | done _ => exact List.not_mem_nil
  | line _ _ => cases hi
  | missing _ ih =>
    rw [List.mem_cons, not_or]
    exact ⟨nofun, ih rfl⟩
  | other hs _ ih =>
    rw [List.mem_cons, not_or]
    refine ⟨?_, ih hi⟩
    rintro rfl
    cases hs

/-- Before a line that is read, none is missing. -/
theorem none_notMem {bytes : List UInt8} {after : List Step} (h : Consumes input (x ++ .read (some bytes) :: after) left) :
    .read none ∉ x := by
  induction x generalizing input with
  | nil => exact List.not_mem_nil
  | cons s x ih =>
    rw [List.mem_cons, not_or]
    cases h with
    | line rest => exact ⟨nofun, ih rest⟩
    | missing rest => exact absurd (List.mem_append_right x List.mem_cons_self) (rest.line_notMem bytes)
    | other hs rest =>
      refine ⟨?_, ih rest⟩
      rintro rfl
      cases hs

end Consumes

namespace Dialogue

variable {α σ : Type} {e : Setting σ}

/-- The steps of a dialogue lead from the input to what is left of it. -/
theorem consumes_steps (d : Dialogue α) (w : World σ) : Consumes w.input (d.steps e w) (d.run e w).2.input := by
  induction d generalizing w with
  | done a => exact .done _
  | fail err => exact .done _
  | write p t next ih =>
    simp only [steps, run]
    rcases w.sink.write (Utf8.encode t) with ⟨f | ⟨⟩, s⟩
    · exact .other rfl (.done _)
    · exact .other rfl (ih { w with sink := s })
  | flush next ih =>
    simp only [steps, run]
    rcases w.sink.flush with ⟨f | ⟨⟩, s⟩
    · exact .other rfl (.done _)
    · exact .other rfl (ih { w with sink := s })
  | read next ih =>
    simp only [steps, run]
    cases hi : w.input with
    | nil =>
      have rest := ih none w
      rw [hi] at rest
      exact .missing rest
    | cons bytes rest =>
      refine .line ?_
      simp only
      cases Utf8.decode? bytes with
      | none => exact .done _
      | some l => exact ih (some l) { w with input := rest }
  | note record next ih => exact .other rfl (ih { w with log := w.log ++ [record] })
  | time next ih => exact ih _ { w with ticks := w.ticks + 1 }
  | send q next ih =>
    rcases hs : e.transport.send q w.transport with ⟨reply, records, s⟩
    simp only [steps, run, hs]
    exact .other rfl (ih reply { w with log := w.log ++ records, transport := s })

end Dialogue

/-! ## More input -/

/-- The world with more lines behind those that are left. -/
def World.followed {σ : Type} (more : List (List UInt8)) (w : World σ) : World σ := { w with input := w.input ++ more }

/-- **A dialogue that misses no line runs in the same way when more lines follow.** -/
theorem Dialogue.run_followed {α σ : Type} {e : Setting σ} (d : Dialogue α) (w : World σ)
    (more : List (List UInt8)) (h : .read none ∉ d.steps e w) :
    d.run e (w.followed more) = ((d.run e w).1, (d.run e w).2.followed more) := by
  induction d generalizing w with
  | done a => rfl
  | fail err => rfl
  | write p t next ih =>
    simp only [steps, run, World.followed] at h ⊢
    rcases hs : w.sink.write (Utf8.encode t) with ⟨f | ⟨⟩, s⟩
    · rfl
    · rw [hs] at h
      exact ih { w with sink := s } (List.not_mem_of_not_mem_cons h)
  | flush next ih =>
    simp only [steps, run, World.followed] at h ⊢
    rcases hs : w.sink.flush with ⟨f | ⟨⟩, s⟩
    · rfl
    · rw [hs] at h
      exact ih { w with sink := s } (List.not_mem_of_not_mem_cons h)
  | read next ih =>
    simp only [steps, run, World.followed] at h ⊢
    cases hi : w.input with
    | nil =>
      rw [hi] at h
      exact absurd List.mem_cons_self h
    | cons bytes rest =>
      rw [hi] at h
      simp only [List.cons_append] at h ⊢
      cases hl : Utf8.decode? bytes with
      | none => rfl
      | some l =>
        rw [hl] at h
        exact ih (some l) { w with input := rest } (List.not_mem_of_not_mem_cons h)
  | note record next ih =>
    exact ih { w with log := w.log ++ [record] } (List.not_mem_of_not_mem_cons h)
  | time next ih => exact ih _ { w with ticks := w.ticks + 1 } h
  | send q next ih => exact ih _ _ (List.not_mem_of_not_mem_cons h)

end PaymentDesk
