import PaymentDesk.Proofs.Dialogue.Boundless
import PaymentDesk.Proofs.Session.Plan

/-!
# Asking over a terminal that does not fail

Over a sink without limits and lines that are all UTF-8, the questions of an action are exactly those of its interview:
`order v a` ends with the order of the interview, shows its questions, and takes one line for each
(`run_order`).
-/

namespace PaymentDesk.Session

open Text

variable {σ : Type} {e : Setting σ} {w : World σ} {ls : List (List Char)}

/-- A world whose terminal does not fail, with these lines to be read. -/
structure Sound (w : World σ) (ls : List (List Char)) : Prop where
  input : w.input = ls.map Utf8.encode
  sink : w.sink.Boundless

/-- The world after some questions, each of which took a line, if there was one. -/
def asked (labels ls : List (List Char)) (w : World σ) : World σ :=
  { w.shown (prompts labels ls) labels.length with input := (ls.drop labels.length).map Utf8.encode }

theorem Sound.asked (h : Sound w ls) (labels : List (List Char)) :
    Sound (asked labels ls w) (ls.drop labels.length) := ⟨rfl, h.sink⟩

theorem Sound.shown (h : Sound w ls) (t : List Char) (n : Nat) : Sound (w.shown t n) ls := ⟨h.input, h.sink⟩

theorem asked_nil (h : Sound w ls) : asked [] ls w = w := by
  simp only [asked, World.shown, prompts, List.length_nil, List.drop_zero, Sink.after_nil, ← h.input]

theorem prompts_snoc (label : List Char) : ∀ (labels ls : List (List Char)),
    prompts (labels ++ [label]) ls = prompts labels ls ++ prompt label (ls.drop labels.length)
  | [], ls => by simp [prompts]
  | l :: labels, ls => by simp [prompts, prompts_snoc label labels]

/-- One more question. -/
theorem asked_snoc {label : List Char} {labels : List (List Char)} {k : Nat} (hk : labels.length = k) :
    asked [label] (ls.drop k) (asked labels ls w) = asked (labels ++ [label]) ls w := by
  subst hk
  simp [asked, World.shown, prompts, prompts_snoc]

/-! ## Single questions -/

theorem run_ask (h : Sound w ls) (label : List Char) :
    (ask label).run e w = (.ok (answer ls 0), asked [label] ls w) := by
  rw [ask, Dialogue.run_bind, Dialogue.run_say h.sink]
  simp only
  rw [Dialogue.run_bind, Dialogue.run_flush (h.shown _ _).sink]
  simp only
  rw [Dialogue.run_bind, Dialogue.run_line ((h.shown _ _).shown _ _).input]
  cases ls with
  | nil =>
    simp only [List.head?_nil]
    simp [Dialogue.run_bind, Dialogue.run_say, h.sink, asked, answer, World.shown, prompts, prompt]
  | cons l r => simp [asked, answer, World.shown, prompts, prompt]

theorem run_require (h : Sound w ls) (label : List Char) :
    (require label).run e w = (.ok (identifier label (answer ls 0)), asked [label] ls w) := by
  rw [require, Dialogue.run_bind, run_ask h]
  rfl

theorem run_optional (h : Sound w ls) (label : String) :
    (optional label.toList).run e w = (.ok (given ls 0), asked [skippable label] ls w) := by
  rw [optional, Dialogue.run_bind, run_ask h]
  simp only [given]
  rcases answer ls 0 with _ | _ | ⟨c, s⟩ <;> rfl

theorem given_drop (ls : List (List Char)) (i j : Nat) : given (ls.drop i) j = given ls (i + j) := by
  simp [given, answer]

/-! ## Interviews -/

theorem run_askCriteria (h : Sound w ls) : askCriteria.run e w = match amount (given ls 0) with
    | .error err => (.ok (.error err), asked [skippable "Amount"] ls w)
    | .ok n => (.ok (.ok (criteria n ls)), asked (skippable "Amount" :: furtherLabels) ls w) := by
  rw [askCriteria, Dialogue.run_bind, run_optional h]
  simp only
  cases amount (given ls 0) with
  | error err => rfl
  | ok n =>
    have h₁ := h.asked [skippable "Amount"]
    simp only
    rw [Dialogue.run_bind, run_optional h₁]
    have h₂ := h₁.asked [skippable "Application reference"]
    simp only
    rw [Dialogue.run_bind, run_optional h₂]
    have h₃ := h₂.asked [skippable "Description"]
    simp only
    rw [Dialogue.run_bind, run_optional h₃]
    have h₄ := h₃.asked [skippable "Payment reference"]
    simp only
    rw [Dialogue.run_bind, run_optional h₄]
    have h₅ := h₄.asked [skippable "Created date"]
    simp only
    rw [Dialogue.run_bind, run_optional h₅]
    simp only [List.length_singleton, given_drop, List.drop_drop, Dialogue.run_pure, criteria]
    rw [asked_snoc, asked_snoc, asked_snoc, asked_snoc, asked_snoc] <;> rfl

/-- **The questions of an action are those of its interview.** -/
theorem run_order {v : Variant} {a : Action} {i : Interview} (h : Sound w ls) (hi : interview v ls a = some i) :
    (order v a).run e w = (.ok (i.order.map some), asked i.labels ls w) := by
  have required : ∀ (label : List Char) (op : List Char → Operation),
      (require label >>= fun r => pure (r.map (some ∘ op)) : Dialogue _).run e w =
        (.ok ((identify label op ls).order.map some), asked [label] ls w) := by
    intro label op
    rw [Dialogue.run_bind, run_require h]
    simp only [identify, Dialogue.run_pure]
    cases identifier label (answer ls 0) <;> rfl
  cases a with
  | quit => cases hi
  | list => cases hi; rw [asked_nil h]; rfl
  | create => cases hi; rw [asked_nil h]; rfl
  | get => cases hi; exact required _ _
  | cancel => cases hi; exact required _ _
  | refund => cases hi; exact required _ _
  | search =>
    rw [order, Dialogue.run_bind, run_askCriteria h]
    simp only [interview, Option.some.injEq] at hi
    subst hi
    cases amount (given ls 0) <;> rfl

end PaymentDesk.Session
