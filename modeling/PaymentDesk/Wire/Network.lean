import PaymentDesk.Wire.Outgoing

/-!
# The network and its server

A server answers requests in the order in which they arrive, from a script; when the script has run out, it answers with
status 200 and an empty object. It may also close the connection without an answer, or stall until the time limit has
passed; there is no other notion of time. Some addresses do not reach the server at all.
-/

namespace PaymentDesk

open Text

/-- What a server does with a request. -/
inductive Answer where
  | reply (status : Nat) (headers : List Header) (body : List UInt8)
  | drop
  | stall
  deriving DecidableEq, Repr

/-- A request as the server received it. -/
structure Arrival where
  method : Method
  target : List Char
  headers : List Header
  body : List Char
  deriving DecidableEq, Repr

/-- The answers that a server has not given yet, and what it has received. -/
structure Network where
  script : List Answer := []
  received : List Arrival := []
  deriving DecidableEq, Repr

namespace Network

/-- The answer of a server whose script has run out. -/
def fallback : Answer := .reply 200 [] (Utf8.encode ['\x7b', '\x7d'])

/-- A value without spaces and tabs around it. -/
def trimValue (s : List Char) : List Char :=
  let isPad := fun c => c == ' ' || c == '\t'
  ((s.dropWhile isPad).reverse.dropWhile isPad).reverse

/-- A request as it arrives. -/
def arrival (o : Outgoing) : Arrival where
  method := o.method
  target := o.url.target
  headers := o.headers.map fun h => (h.1, trimValue h.2)
  body := o.body.getD []

/-- Hands a request to the server. -/
def deliver (o : Outgoing) (n : Network) : Answer × Network :=
  let received := n.received ++ [arrival o]
  match n.script with
  | [] => (fallback, { n with received })
  | a :: rest => (a, ⟨rest, received⟩)

end Network

end PaymentDesk
