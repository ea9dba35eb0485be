import PaymentDesk.Json.Printer
import PaymentDesk.Operation
import PaymentDesk.Text.Line
import PaymentDesk.Text.Printable

/-!
# Sessions

A session shows the menu, reads a choice, asks for what the chosen operation needs, performs it and shows the result,
over and over (`round`), until the operator quits or the input ends. A failed operation is reported in one line and the
session goes on; only a terminal that cannot be read or written ends it early, and so does a transport that reports such
a failure (`Session.run`).
-/

namespace PaymentDesk

open Text

/-! ## Questions -/

/-- Why an answer is not used. -/
inductive Refusal where
  | empty (label : List Char)
  | noSegment (label value : List Char)
  | closed (label : List Char)
  | noAmount (value : List Char)
  deriving DecidableEq, Repr

/-- The wording of a refusal. -/
def Refusal.message : Refusal → List Char
  | .empty label => label ++ " must not be empty".toList
  | .noSegment label value =>
    label ++ " '".toList ++ value ++ "' must not contain '/', '?', '#', '..' or whitespace".toList
  | .closed label => "input closed while reading ".toList ++ label
  | .noAmount value => "amount '".toList ++ value ++ "' is not a whole number".toList

/-- The error of a refusal. -/
def Refusal.error (r : Refusal) : Error := .input r.message

/-- Two periods stand next to each other. -/
def hasTwoDots : List Char → Bool
  | '.' :: '.' :: _ => true
  | _ :: r => hasTwoDots r
  | [] => false

/-- A text that can stand for one segment of a path. -/
def isPathSegment (s : List Char) : Bool :=
  ! (s.any fun c => c == '/' || c == '?' || c == '#') && ! hasTwoDots s && ! s.any isBlank

namespace Session

/-- Asks for a line; the answer is trimmed, and is nothing at the end of the input. -/
def ask (label : List Char) : Dialogue (Option (List Char)) := do
  Dialogue.say (label ++ ": ".toList)
  Dialogue.flush (pure ())
  match ← Dialogue.line with
  | none =>
    Dialogue.say ['\n']
    pure none
  | some l => pure (some (trim l))

/-- The identifier in an answer, which becomes a segment of a path. -/
def identifier (label : List Char) : Option (List Char) → Except Error (List Char)
  | none => .error (Refusal.closed label).error
  | some [] => .error (Refusal.empty label).error
  | some s => if isPathSegment s then .ok s else .error (Refusal.noSegment label s).error

/-- Asks for an identifier. -/
def require (label : List Char) : Dialogue (Except Error (List Char)) := do
  pure (identifier label (← ask label))

/-- Asks for a text that may be left out. -/
def optional (label : List Char) : Dialogue (Option (List Char)) := do
  match ← ask (label ++ " (blank to skip)".toList) with
  | none | some [] => pure none
  | some s => pure (some s)

/-- The amount in an answer that may be left out. -/
def amount : Option (List Char) → Except Error (Option Nat)
  | none => .ok none
  | some s => match Decimal.read (Nat.pow 2 32) s with
    | .ok n => .ok (some n)
    | .error _ => .error (Refusal.noAmount s).error

/-- Asks for the criteria of a search. An amount that is no number ends the questions. -/
def askCriteria : Dialogue (Except Error Criteria) := do
  match amount (← optional "Amount".toList) with
  | .error e => pure (.error e)
  | .ok amount =>
    let applicationReference ← optional "Application reference".toList
    let description ← optional "Description".toList
    let paymentReference ← optional "Payment reference".toList
    let createdDate ← optional "Created date".toList
    let email ← optional "Email".toList
    pure (.ok { amount, applicationReference, description, paymentReference, createdDate, email })

/-- Asks for what an action needs; quitting needs no operation. -/
def order (v : Variant) : Action → Dialogue (Except Error (Option Operation))
  | .list => pure (.ok (some .list))
  | .get => do pure ((← require "Payment id".toList).map (some ∘ .get))
  | .create => pure (.ok (some .create))
  | .cancel => do pure ((← require "Payment id".toList).map (some ∘ .cancel))
  | .refund => do pure ((← require v.refundPrompt).map (some ∘ .refund))
  | .search => do pure ((← askCriteria).map (some ∘ .search))
  | .quit => pure (.ok none)

/-! ## Rounds -/

/-- The menu as it is shown. -/
def menuText (v : Variant) : List Char :=
  "\nPayments console (".toList ++ v.name ++ ")\n".toList ++
    v.entries.flatMap fun e => "  ".toList ++ e.1 :: ") ".toList ++ e.2.label ++ ['\n']

/-- Asks for what an action needs, and performs the operation. -/
def perform (v : Variant) (a : Action) : Dialogue Operation.Outcome := do
  match ← order v a with
  | .error e => pure (.error e)
  | .ok none => pure (.ok none)
  | .ok (some op) => op.perform v

/-- Shows what came of an action. An error of the terminal ends the session. -/
def report (a : Action) : Operation.Outcome → Dialogue Unit
  | .ok (some v) => Dialogue.present (Json.page v)
  | .ok none => pure ()
  | .error (.io reason) => .fail (.io reason)
  | .error e => do
    Dialogue.log .warn .session (a.label ++ " failed: ".toList ++ e.message)
    Dialogue.say ("Error: ".toList ++ e.message ++ ['\n'])

/-- How a round ends. -/
inductive Turn where
  | again
  | over
  deriving DecidableEq, Repr

/-- One round: the menu, a choice, and the action it names. A choice that names none is only noted. -/
def round (v : Variant) : Dialogue Turn := do
  Dialogue.say (menuText v)
  match ← ask "Choice".toList with
  | none => pure .over
  | some choice =>
    match v.actionFor choice with
    | none =>
      Dialogue.log .debug .session ("ignoring unrecognised choice ".toList ++ quoted choice)
      pure .again
    | some .quit => pure .over
    | some a =>
      report a (← perform v a)
      pure .again

/-! ## The loop -/

section Loop

variable {σ : Type}

/-- An answer takes a line off the input. -/
theorem length_input_of_ask {e : Setting σ} {label s : List Char} {w w' : World σ}
    (h : (ask label).run e w = (.ok (some s), w')) : w'.input.length < w.input.length := by
  obtain ⟨_, w₁, h₁, h⟩ := Dialogue.run_bind_eq_ok.mp h
  obtain ⟨_, w₂, h₂, h⟩ := Dialogue.run_bind_eq_ok.mp h
  obtain ⟨l, w₃, h₃, h⟩ := Dialogue.run_bind_eq_ok.mp h
  have le₁ := Dialogue.length_input_le_of_run h₁
  have le₂ := Dialogue.length_input_le_of_run h₂
  cases l with
  | none =>
    obtain ⟨_, _, _, h⟩ := Dialogue.run_bind_eq_ok.mp h
    simp at h
  | some l =>
    have lt := Dialogue.length_input_of_line h₃
    have le₃ := Dialogue.length_input_le_of_run h
    omega

/-- A round after which another one follows takes a line off the input. -/
theorem length_input_of_round {e : Setting σ} {v : Variant} {w w' : World σ}
    (h : (round v).run e w = (.ok .again, w')) : w'.input.length < w.input.length := by
  obtain ⟨_, w₁, h₁, h⟩ := Dialogue.run_bind_eq_ok.mp h
  obtain ⟨answer, w₂, h₂, h⟩ := Dialogue.run_bind_eq_ok.mp h
  have le₁ := Dialogue.length_input_le_of_run h₁
  have le := Dialogue.length_input_le_of_run h
  cases answer with
  | none => simp at h
  | some choice =>
    have lt := length_input_of_ask h₂
    omega

/-- Plays rounds until the operator quits, the input ends, or the session fails. Every round but the last reads a line,
so the lines that are left bound the number of rounds. -/
def run (e : Setting σ) (v : Variant) (w : World σ) : Except Error Unit × World σ :=
  match _h : (round v).run e w with
  | (.error err, w') => (.error err, w')
  | (.ok .over, w') => (.ok (), w')
  | (.ok .again, w') => run e v w'
termination_by w.input.length
decreasing_by exact length_input_of_round _h

end Loop

end Session

end PaymentDesk
