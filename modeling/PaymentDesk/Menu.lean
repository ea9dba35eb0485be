import PaymentDesk.Text.Blank

/-!
# The menu

The desk comes in two variants, which differ in the menu, in the reference fields of a new payment and in one prompt. A
choice is a single key, blanks around it and the case of its letter being ignored (`Variant.actionFor`).
-/

namespace PaymentDesk

open Text

/-- What an operator can ask for. -/
inductive Action where
  | list
  | get
  | create
  | cancel
  | refund
  | search
  | quit
  deriving DecidableEq, Repr

/-- The name of an action in the menu and in diagnostics. -/
def Action.label : Action → List Char
  | .list => "List payments".toList
  | .get => "Get payment".toList
  | .create => "Create payment".toList
  | .cancel => "Cancel payment".toList
  | .refund => "Refund payment".toList
  | .search => "Search payments".toList
  | .quit => "Quit".toList

/-- Which reference fields a new payment carries: one field, or a pair. -/
inductive ReferenceStyle where
  | single
  | split
  deriving DecidableEq, Repr

/-- A version of the payments service. -/
inductive Variant where
  | legacy
  | current
  deriving DecidableEq, Repr

namespace Variant

/-- All variants, the older one first. -/
def all : List Variant := [.legacy, .current]

/-- The name of a variant. -/
def name : Variant → List Char
  | .legacy => "legacy".toList
  | .current => "current".toList

/-- The variant with a name, the case of ASCII letters being ignored on demand. -/
def ofName? (ignoreCase : Bool) (s : List Char) : Option Variant :=
  let fold := fun t : List Char => if ignoreCase then t.map Char.toLower else t
  all.find? fun v => fold v.name == fold s

/-- The complaint about a name that no variant has. -/
def unknownName (s : List Char) : List Char := "invalid variant: ".toList ++ s

/-- The keys of the menu with their actions, in the order in which they are shown. -/
def entries : Variant → List (Char × Action)
  | .legacy =>
    [('1', .list), ('2', .get), ('3', .create), ('4', .cancel), ('5', .refund), ('s', .search), ('q', .quit)]
  | .current => [('1', .get), ('2', .create), ('3', .cancel), ('4', .refund), ('s', .search), ('q', .quit)]

/-- The action that a choice names. -/
def actionFor (v : Variant) (choice : List Char) : Option Action :=
  match trim choice with
  | [c] => (v.entries.find? fun e => e.1.toLower == c.toLower).map (·.2)
  | _ => none

/-- The reference fields of a new payment. -/
def referenceStyle : Variant → ReferenceStyle
  | .legacy => .split
  | .current => .single

/-- What the operator is asked for before a refund. -/
def refundPrompt : Variant → List Char
  | .legacy => "Application reference".toList
  | .current => "Reference".toList

end Variant

end PaymentDesk
