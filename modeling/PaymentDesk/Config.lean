import PaymentDesk.Error
import PaymentDesk.Text.Blank
import PaymentDesk.Url.Parser

/-!
# Settings of the connection

The settings are the base address of the service, the id by which it knows the caller, and perhaps a time limit.
`Config.make` checks them. The base address is kept as it was entered, trimmed, with a slash at its end, since the paths
of requests are appended to it.
-/

namespace PaymentDesk

open Text

/-- Checked settings; the time limit is in milliseconds. -/
structure Config where
  baseUrl : List Char := "http://localhost:8181/payments/".toList
  serviceId : List Char := "divorce".toList
  timeout : Option Nat := none
  deriving DecidableEq, Repr

namespace Config

/-- Why settings are refused. -/
inductive Fault where
  | notUrl (base : List Char) (fault : Url.Fault)
  | notHttp (base : List Char)
  | queryOrFragment (base : List Char)
  | serviceId (id : List Char)
  deriving DecidableEq, Repr

/-- The wording of a fault. -/
def Fault.message : Fault → List Char
  | notUrl base fault => "invalid base URL '".toList ++ base ++ "': ".toList ++ fault.message
  | notHttp base => "base URL '".toList ++ base ++ "' must be an http(s) URL".toList
  | queryOrFragment base => "base URL '".toList ++ base ++ "' must not carry a query or fragment".toList
  | serviceId id => "service id '".toList ++ id ++ "' is not a valid header value".toList

/-- The error of a fault. -/
def Fault.error (f : Fault) : Error := .config f.message

/-- A text that can be sent as the value of a header. -/
def isHeaderValue (s : List Char) : Bool := s.all fun c => c == '\t' || (0x20 ≤ c.toNat && c.toNat != 0x7F)

/-- A text with a slash at its end. -/
def withSlash (s : List Char) : List Char := if s.getLast? == some '/' then s else s ++ ['/']

/-- The scheme is one over which requests can be sent. -/
def isHttp (u : Url) : Bool := u.scheme == "http".toList || u.scheme == "https".toList

/-- Checks a base address, which is trimmed already. -/
def checkBase (base : List Char) : Except Fault Url :=
  match Url.parse base with
  | .error f => .error (.notUrl base f)
  | .ok u =>
    if ! isHttp u then .error (.notHttp base)
    else if u.query.isSome || u.fragment.isSome then .error (.queryOrFragment base)
    else .ok u

/-- Checks settings. -/
def make (base serviceId : List Char) (timeout : Option Nat) : Except Fault Config :=
  let base := trim base
  match checkBase base with
  | .error f => .error f
  | .ok _ =>
    if serviceId.isEmpty || ! isHeaderValue serviceId then .error (.serviceId serviceId)
    else .ok { baseUrl := withSlash base, serviceId, timeout }

end Config

end PaymentDesk
