import PaymentDesk.Json.Value
import PaymentDesk.Menu
import PaymentDesk.Text.Blank
import PaymentDesk.Text.Digits

/-!
# Request bodies and queries

The bodies of the three requests that carry one. All their contents are fixed, but for the references of a new payment,
which end with the second at which it was made. `fields` lists the members of a body in the order in which they are
declared; on the wire their keys are in ascending order (`document`).

A search carries a query: it filters payments by up to six criteria. `Criteria.toQuery` lists the ones that are given, in
a fixed order; texts are trimmed, and a text that is then empty counts as not given.
-/

namespace PaymentDesk

open Text Json

/-- The members of a JSON object. -/
abbrev Fields := List (List Char × Value)

/-- The object with given members, its keys in ascending order. -/
def Fields.document (f : Fields) : Value := .object (collect f)

/-- A whole number as a JSON value. -/
def natValue (n : Nat) : Value := .number (.int n)

/-! ## A new payment -/

/-- The reference of a new payment. -/
inductive Reference where
  | single (reference : List Char)
  | split (application payment : List Char)
  deriving DecidableEq, Repr

namespace Reference

/-- The references made at a second. Two payments made in the same second get the same ones. -/
def stamped (style : ReferenceStyle) (second : Int) : Reference :=
  match style with
  | .single => .single ("reference-".toList ++ Decimal.ofInt second)
  | .split => .split ("application-".toList ++ Decimal.ofInt second) ("payment-".toList ++ Decimal.ofInt second)

/-- The members that carry a reference. -/
def fields : Reference → Fields
  | .single r => [("reference".toList, .string r)]
  | .split a p => [("application_reference".toList, .string a), ("payment_reference".toList, .string p)]

end Reference

/-- The body that asks for a new payment. -/
structure Creation where
  amount : Nat
  reference : Reference
  description : List Char
  returnUrl : List Char
  email : List Char
  deriving DecidableEq, Repr

namespace Creation

/-- The sample payment made at a second. -/
def sample (style : ReferenceStyle) (second : Int) : Creation where
  amount := 3000
  reference := .stamped style second
  description := "Divorce application fee".toList
  returnUrl := "https://localhost:8443/payment-result".toList
  email := "test@example.com".toList

/-- The members of the body. -/
def fields (c : Creation) : Fields :=
  ("amount".toList, natValue c.amount) :: c.reference.fields ++
    [("description".toList, .string c.description), ("return_url".toList, .string c.returnUrl),
      ("email".toList, .string c.email)]

end Creation

/-! ## Refunds and cancellations -/

/-- The body that asks for a refund. -/
structure Refund where
  amount : Nat := 500
  available : Nat := 3000
  deriving DecidableEq, Repr

/-- The members of the body. -/
def Refund.fields (r : Refund) : Fields :=
  [("amount".toList, natValue r.amount), ("refund_amount_available".toList, natValue r.available)]

/-- The members of the body that asks for a cancellation: the service needs the request only. -/
def cancellation : Fields := []

/-! ## Search criteria -/

/-- The filters of a search. -/
structure Criteria where
  amount : Option Nat := none
  applicationReference : Option (List Char) := none
  description : Option (List Char) := none
  paymentReference : Option (List Char) := none
  createdDate : Option (List Char) := none
  email : Option (List Char) := none
  deriving DecidableEq, Repr

namespace Criteria

/-- A criterion that is given as a text, unless it is blank. -/
def textPair (key : List Char) (value : Option (List Char)) : Option (List Char × List Char) :=
  match value.map trim with
  | none | some [] => none
  | some t => some (key, t)

/-- The criteria that are given, as keys and values. -/
def toQuery (c : Criteria) : List (List Char × List Char) :=
  [c.amount.map fun n => ("amount".toList, Decimal.ofNat n),
    textPair "application_reference".toList c.applicationReference,
    textPair "description".toList c.description,
    textPair "payment_reference".toList c.paymentReference,
    textPair "created_date".toList c.createdDate,
    textPair "email".toList c.email].filterMap id

end Criteria

end PaymentDesk
