import PaymentDesk.Json.Printer
import PaymentDesk.Request

/-!
# The recording transport

It never touches a network: it keeps every request, in order, and answers from a queue of replies. When the queue has
run out, it answers with status 200 and an empty object.
-/

namespace PaymentDesk

/-- The requests taken so far, and the replies still queued. -/
structure Recording where
  requests : List Request := []
  replies : List Reply := []

namespace Recording

/-- Queues a reply. -/
def push (reply : Reply) (r : Recording) : Recording := { r with replies := r.replies ++ [reply] }

/-- Queues a response with a document as its body. -/
def pushJson (status : Nat) (body : Json.Value) (r : Recording) : Recording :=
  r.push (.ok ⟨status, Json.compact body⟩)

/-- The answer when no reply is queued. -/
def fallback : Reply := .ok ⟨200, ['\x7b', '\x7d']⟩

/-- Keeps a request and answers it. -/
def send (request : Request) (r : Recording) : Reply × List Log.Record × Recording :=
  let requests := r.requests ++ [request]
  match r.replies with
  | [] => (fallback, [], { r with requests })
  | reply :: rest => (reply, [], ⟨requests, rest⟩)

theorem requests_send (r : Request) (t : Recording) : (send r t).2.2.requests = t.requests ++ [r] := by
  rw [send]
  split <;> rfl

/-- The recording transport. -/
def transport : Transport Recording := ⟨send⟩

end Recording

end PaymentDesk
