import PaymentDesk.Url.Reference
import PaymentDesk.Wire.Network
import PaymentDesk.Wire.Status

/-!
# The transport over a network

A request is sent to the server, and redirections are followed, at most ten of them, as long as they lead to an http(s)
URL; any other is refused, and nothing is sent. After 301 and 302 a request that carried something is fetched instead,
after 303 any request is, and after 307 and 308 it is sent again as it was (`Outgoing.redirect`). The reply that is left
is a response if its status means success, and an error with its body in one line otherwise. A reply whose `location` is
no reference is not a redirection.

There is no clock here. A reply that comes is taken to come in time, and a server that stalls outlasts the time limit of
the settings: an exchange that waits without a limit has no outcome to speak of.
-/

namespace PaymentDesk

open Text

/-- Why a request got no reply. -/
inductive WireFault where
  | address (url : Url)
  | connection (url : Url)
  | redirections (url : Url)
  deriving DecidableEq, Repr

namespace WireFault

/-- The wording of a fault. -/
def message : WireFault → List Char
  | address u => "builder error for url (".toList ++ u.text ++ [')']
  | connection u => "error sending request for url (".toList ++ u.text ++ [')']
  | redirections u => "error following redirect for url (".toList ++ u.text ++ [')']

/-- The error of a fault. -/
def error (f : WireFault) : Error := .transport f.message

end WireFault

/-! ## Redirections -/

namespace Url

/-- The URL can stand in a request. A few characters that a domain may hold cannot. -/
def isSendable (u : Url) : Bool :=
  u.text.length < 65535 &&
    match u.authority with
    | some a => ! a.host.text.any "\"`\x7b\x7d".toList.contains
    | none => false

/-- The port, given or not. -/
def effectivePort (u : Url) : Option Nat := ((u.authority.bind (·.port)).or (defaultPort? u.scheme))

/-- Two URLs point to the same server. -/
def sameServer (u v : Url) : Bool :=
  u.authority.map (·.host) == v.authority.map (·.host) && u.effectivePort == v.effectivePort

end Url

/-- The place that a reply with some status and headers sends the client to, or why it is no URL. -/
def redirection? (url : Url) (status : Nat) (headers : List Header) : Option (Except Url.Fault Url) :=
  if [301, 302, 303, 307, 308].contains status then
    match headers.find? fun h => h.1.map Char.toLower == "location".toList with
    | some h => url.lead? (Network.trimValue h.2)
    | none => none
  else none

/-- The request is turned into a plain fetch by a redirection. -/
def becomesGet (status : Nat) (m : Method) : Bool :=
  status == 303 || ((status == 301 || status == 302) && m == .post)

/-- A request after a redirection. Credentials do not go to another server. -/
def Outgoing.redirect (status : Nat) (target : Url) (o : Outgoing) : Outgoing :=
  let headers := if o.url.sameServer target then o.headers else o.headers.filter (·.1 != "authorization".toList)
  if becomesGet status o.method then
    { method := .get, url := target, headers := headers.filter (·.1 != "content-type".toList), body := none }
  else { o with url := target, headers }

/-! ## Exchanges -/

/-- The settings of the transport, and which addresses reach the server. -/
structure Wire where
  config : Config
  reaches : Url → Bool

namespace Wire

/-- The bytes of a body; some replies have none whatever the server says. -/
def bodyOf (status : Nat) (body : List UInt8) : List UInt8 :=
  if status == 204 || status == 304 then [] else body

/-- The records that the HTTP client writes when it asks a server for something: it connects, and does not try twice. -/
def attempt (u : Url) : List Log.Record :=
  let server := u.scheme ++ "://".toList ++ (match u.authority with | some a => a.text | none => []) ++ ['/']
  [⟨.debug, .connection, "starting new connection: ".toList ++ server⟩, ⟨.trace, .repetition, "shouldn't retry!".toList⟩]

/-- Sends a request, to an http(s) URL only, and follows at most `left` redirections. -/
def exchange (w : Wire) (left : Nat) (o : Outgoing) (n : Network) :
    Except WireFault (Nat × List UInt8) × List Log.Record × Network :=
  if ! (Config.isHttp o.url && o.url.isSendable) then (.error (.address o.url), [], n)
  else if ! w.reaches o.url then (.error (.connection o.url), attempt o.url, n)
  else match n.deliver o with
    | (.drop, n) => (.error (.connection o.url), attempt o.url, n)
    | (.stall, n) => (.error (.connection o.url), attempt o.url, n)
    | (.reply status headers body, n) =>
      match redirection? o.url status headers, left with
      | none, _ => (.ok (status, bodyOf status body), attempt o.url, n)
      -- There is no target to complain about: the fault names the URL that was asked.
      | some (.error _), _ => (.error (.address o.url), attempt o.url, n)
      | some (.ok _), 0 => (.error (.redirections o.url), attempt o.url, n)
      | some (.ok target), left + 1 =>
        let (result, records, n) := w.exchange left (o.redirect status target) n
        (result, attempt o.url ++ records, n)

/-- What a reply comes to. -/
def conclude (status : Nat) (body : List Char) : Reply :=
  if Status.isSuccess status then .ok ⟨status, body⟩ else .error (.status status (oneLine body))

/-- A record about the exchange. -/
def record (text : List Char) : Log.Record := ⟨.debug, .wire, text⟩

/-- Sends a request. -/
def send (w : Wire) (r : Request) (n : Network) : Reply × List Log.Record × Network :=
  match w.config.outgoing r with
  | .error e => (.error e, [], n)
  | .ok o =>
    let sent := record (o.method.name ++ ' ' :: o.url.text)
    match w.exchange 10 o n with
    | (.error f, records, n) => (.error f.error, sent :: records, n)
    | (.ok (status, body), records, n) =>
      (conclude status (Utf8.decodeLossy body),
        sent :: records ++ [record (r.method.name ++ " -> ".toList ++ Status.text status)], n)

/-- The transport over a network. -/
def transport (w : Wire) : Transport Network := ⟨w.send⟩

end Wire

end PaymentDesk
