import PaymentDesk.Session

/-!
# The plan of a session

The lines of an operator say which operations are wanted before any of them is performed. A choice line is looked up in
the menu; a get, a cancellation and a refund take one further line, and a search takes one, and five more if that one is
blank, missing or an amount (`interview`). The rounds that this gives are a `Plan`: the texts shown in them, the
operations to perform (`Plan.calls`), and the lines that nobody reads. What the operator sees in the end is settled once
it is known what came of each operation (`Plan.transcript`).
-/

namespace PaymentDesk.Session

open Text

/-! ## Questions and answers -/

/-- A question as it is shown. When there is no line to answer it, its line is ended. -/
def prompt (label : List Char) (ls : List (List Char)) : List Char :=
  label ++ ": ".toList ++ if ls.isEmpty then ['\n'] else []

/-- Questions as they are shown, each being answered by a line of its own as long as there are lines. -/
def prompts : List (List Char) → List (List Char) → List Char
  | [], _ => []
  | label :: labels, ls => prompt label ls ++ prompts labels ls.tail

/-- The trimmed line at a place. -/
def answer (ls : List (List Char)) (i : Nat) : Option (List Char) := ls[i]?.map trim

/-- The trimmed line at a place, when it is not blank. -/
def given (ls : List (List Char)) (i : Nat) : Option (List Char) := (answer ls i).filter (! ·.isEmpty)

/-- The question for a text that may be left out. -/
def skippable (label : String) : List Char := label.toList ++ " (blank to skip)".toList

/-- The questions of a search that come after the amount. -/
def furtherLabels : List (List Char) :=
  ["Application reference", "Description", "Payment reference", "Created date", "Email"].map skippable

/-- The criteria in six lines, the amount being known. -/
def criteria (amount : Option Nat) (ls : List (List Char)) : Criteria where
  amount := amount
  applicationReference := given ls 1
  description := given ls 2
  paymentReference := given ls 3
  createdDate := given ls 4
  email := given ls 5

/-- What an action asks for, and what the answers come to. -/
structure Interview where
  labels : List (List Char)
  order : Except Error Operation

/-- An action that asks for an identifier. -/
def identify (label : List Char) (op : List Char → Operation) (ls : List (List Char)) : Interview :=
  ⟨[label], (identifier label (answer ls 0)).map op⟩

/-- What an action asks for when these lines follow its choice. Quitting asks for nothing and orders nothing. -/
def interview (v : Variant) (ls : List (List Char)) : Action → Option Interview
  | .list => some ⟨[], .ok .list⟩
  | .get => some (identify "Payment id".toList .get ls)
  | .create => some ⟨[], .ok .create⟩
  | .cancel => some (identify "Payment id".toList .cancel ls)
  | .refund => some (identify v.refundPrompt .refund ls)
  | .search => some <| match amount (given ls 0) with
    | .error e => ⟨[skippable "Amount"], .error e⟩
    | .ok n => ⟨skippable "Amount" :: furtherLabels, .ok (.search (criteria n ls))⟩
  | .quit => none

/-! ## Rounds -/

/-- What a round is about: a choice that names nothing, an answer that is refused, or an operation. -/
inductive Deed where
  | ignore (choice : List Char)
  | refuse (action : Action) (error : Error)
  | call (action : Action) (operation : Operation)

/-- The deed that an order comes to. -/
def Deed.of (a : Action) : Except Error Operation → Deed
  | .error e => .refuse a e
  | .ok op => .call a op

/-- The operation to perform, if there is one. -/
def Deed.operation? : Deed → Option Operation
  | .call _ op => some op
  | _ => none

/-- A round after which another one follows: what is shown up to its last question, and its deed. -/
structure Stage where
  shown : List Char
  deed : Deed

/-- The rounds of a session, what is shown in the last one, and the lines that are left then. -/
structure Plan where
  stages : List Stage
  closing : List Char
  left : List (List Char)

/-- A plan with a round in front. -/
def Plan.after (s : Stage) (p : Plan) : Plan := { p with stages := s :: p.stages }

/-- The operations of a plan, in order. -/
def Plan.calls (p : Plan) : List Operation := p.stages.filterMap (·.deed.operation?)

/-- The menu and the question for a choice. -/
def opening (v : Variant) (ls : List (List Char)) : List Char := menuText v ++ prompt "Choice".toList ls

/-- The plan in the lines of an operator. No reply has a part in it. -/
def plan (v : Variant) : List (List Char) → Plan
  | [] => ⟨[], opening v [], []⟩
  | l :: r =>
    let shown := opening v (l :: r)
    match v.actionFor (trim l) with
    | none => (plan v r).after ⟨shown, .ignore (trim l)⟩
    | some a =>
      match interview v r a with
      | none => ⟨[], shown, r⟩
      | some i => (plan v (r.drop i.labels.length)).after ⟨shown ++ prompts i.labels r, .of a i.order⟩
termination_by ls => ls.length
decreasing_by
  · exact Nat.lt_succ_self _
  · simp only [List.length_drop, List.length_cons]
    omega

/-! ## What the operator sees -/

/-- What is shown of an operation: its document, nothing, or its error in one line. -/
def exhibit : Operation.Outcome → List Char
  | .ok (some d) => Json.page d ++ ['\n']
  | .ok none => []
  | .error e => "Error: ".toList ++ e.message ++ ['\n']

@[simp] theorem exhibit_document (d : Json.Value) : exhibit (.ok (some d)) = Json.page d ++ ['\n'] := rfl

@[simp] theorem exhibit_nothing : exhibit (.ok none) = [] := rfl

@[simp] theorem exhibit_error (e : Error) : exhibit (.error e) = "Error: ".toList ++ e.message ++ ['\n'] := rfl

/-- The output of rounds, when the operations in them come to these outcomes. -/
def narrate : List Stage → List Operation.Outcome → List Char
  | [], _ => []
  | ⟨shown, .ignore _⟩ :: r, os => shown ++ narrate r os
  | ⟨shown, .refuse _ e⟩ :: r, os => shown ++ exhibit (.error e) ++ narrate r os
  | ⟨shown, .call _ _⟩ :: r, o :: os => shown ++ exhibit o ++ narrate r os
  | ⟨shown, .call _ _⟩ :: _, [] => shown

/-- The whole output of a session. -/
def Plan.transcript (p : Plan) (os : List Operation.Outcome) : List Char := narrate p.stages os ++ p.closing

end PaymentDesk.Session
