import PaymentDesk.Dialogue
import PaymentDesk.Payload

/-!
# Operations on payments

Each operation is the one or two requests it needs. The operations that show something end with the document of the
last reply; a refund ends with nothing to show. A cancellation discards the reply to its own request and fetches the
payment again.
-/

namespace PaymentDesk

/-- An operation with what it needs to know. -/
inductive Operation where
  | list
  | get (id : List Char)
  | create
  | createAt (second : Int)
  | cancel (id : List Char)
  | refund (reference : List Char)
  | search (criteria : Criteria)
  deriving DecidableEq, Repr

namespace Operation

/-- What an operation ends with: perhaps a document to show. -/
abbrev Outcome := Except Error (Option Json.Value)

/-- Sends a request for a document. -/
def fetch (r : Request) : Dialogue Outcome := do
  match ← Dialogue.request r with
  | .error e => pure (.error e)
  | .ok response => pure (response.json.map some)

/-- The request for a new payment. -/
def creationRequest (style : ReferenceStyle) (second : Int) : Request :=
  .post [] (Creation.sample style second).fields.document

/-- The request to cancel a payment. -/
def cancelRequest (id : List Char) : Request := .post (id ++ "/cancel".toList) cancellation.document

/-- The request for a refund. -/
def refundRequest (reference : List Char) : Request :=
  .post (reference ++ "/refunds".toList) (Refund.fields {}).document

/-- The request for a search. -/
def searchRequest (c : Criteria) : Request := { Request.get [] with query := c.toQuery }

/-- The dialogue of an operation. -/
def perform (v : Variant) : Operation → Dialogue Outcome
  | list => fetch (.get [])
  | get id => fetch (.get id)
  | create => .time fun second => fetch (creationRequest v.referenceStyle second)
  | createAt second => fetch (creationRequest v.referenceStyle second)
  | cancel id => do
    match ← Dialogue.request (cancelRequest id) with
    | .error e => pure (.error e)
    | .ok _ =>
      Dialogue.log .info .operations ("cancel accepted for payment ".toList ++ id)
      fetch (.get id)
  | refund reference => do
    match ← Dialogue.request (refundRequest reference) with
    | .error e => pure (.error e)
    | .ok _ =>
      Dialogue.log .info .operations ("refund accepted for ".toList ++ reference)
      pure (.ok none)
  | search c => fetch (searchRequest c)

end Operation

end PaymentDesk
