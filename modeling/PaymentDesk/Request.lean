import PaymentDesk.Error
import PaymentDesk.Json.Reader
import PaymentDesk.Log

/-!
# Requests, responses and transports

A request names its method, a path below the base address, query pairs and perhaps a body. The method is always stated
and never derived from the body. The body of a response is kept as text and read on demand (`Response.json`).

A transport takes one request at a time and answers it, or says why there is no answer. It has a state of its own and
may write log records.
-/

namespace PaymentDesk

open Json

/-- The method of a request. -/
inductive Method where
  | get
  | post
  | put
  | patch
  | delete
  deriving DecidableEq, Repr

/-- The name of a method on the wire. -/
def Method.name : Method → List Char
  | .get => "GET".toList
  | .post => "POST".toList
  | .put => "PUT".toList
  | .patch => "PATCH".toList
  | .delete => "DELETE".toList

/-- One call to the payments service. -/
structure Request where
  method : Method
  path : List Char
  query : List (List Char × List Char) := []
  body : Option Value := none

namespace Request

/-- A request for a document. -/
def get (path : List Char) : Request where
  method := .get
  path := path

/-- A request with a body. -/
def post (path : List Char) (body : Value) : Request where
  method := .post
  path := path
  body := some body

end Request

/-- A reply of the service. -/
structure Response where
  status : Nat
  body : List Char
  deriving DecidableEq, Repr

/-- The document in the body. -/
def Response.json (r : Response) : Except Error Value :=
  (parse r.body).mapError fun f => .json f.message

/-! ## Transports -/

/-- What comes of a request: the response, or the error in its place. -/
abbrev Reply := Except Error Response

/-- A way of sending requests, over states `σ`: the reply, the records written meanwhile, and the next state. -/
structure Transport (σ : Type) where
  send : Request → σ → Reply × List Log.Record × σ

end PaymentDesk
