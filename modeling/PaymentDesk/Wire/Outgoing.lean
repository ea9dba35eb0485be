import PaymentDesk.Config
import PaymentDesk.Json.Printer
import PaymentDesk.Request
import PaymentDesk.Url.Percent

/-!
# Requests as they leave the desk

A request is addressed by appending its path to the base address and its pairs to the query (`Config.urlFor`). What is
sent names the method, carries two fixed headers, and the body in compact form. A user and a password in the address are
taken out of it and sent as a header of their own, in Base64 (`Config.outgoing`).
-/

namespace PaymentDesk

open Text

/-! ## Base64 -/

namespace Text.Base64

/-- The character for a value below 64. -/
def digit (n : Nat) : Char :=
  if n < 26 then Char.ofNat ('A'.toNat + n)
  else if n < 52 then Char.ofNat ('a'.toNat + (n - 26))
  else if n < 62 then Char.ofNat ('0'.toNat + (n - 52))
  else if n = 62 then '+'
  else '/'

/-- The text of a byte string. -/
def encode : List UInt8 → List Char
  | a :: b :: c :: r =>
    let n := a.toNat * 65536 + b.toNat * 256 + c.toNat
    digit (n / 262144) :: digit (n / 4096 % 64) :: digit (n / 64 % 64) :: digit (n % 64) :: encode r
  | [a, b] =>
    let n := a.toNat * 1024 + b.toNat * 4
    [digit (n / 4096), digit (n / 64 % 64), digit (n % 64), '=']
  | [a] => [digit (a.toNat / 4), digit (a.toNat % 4 * 16), '=', '=']
  | [] => []

end Text.Base64

/-! ## Requests and their addresses -/

/-- A header: its name in small letters, and its value. -/
abbrev Header := List Char × List Char

/-- A request that is ready to be sent. -/
structure Outgoing where
  method : Method
  url : Url
  headers : List Header
  body : Option (List Char)
  deriving DecidableEq, Repr

namespace Url

/-- Appends pairs to the query, behind what it holds already. -/
def appendQuery (pairs : List (List Char × List Char)) (u : Url) : Url :=
  if pairs.isEmpty then u
  else match u.query with
    | none | some [] => { u with query := some (Form.encode pairs) }
    | some q => { u with query := some (q ++ '&' :: Form.encode pairs) }

/-- The text that an encoded part of a URL stands for, if it is UTF-8. -/
def decoded? (s : List Char) : Option (List Char) := Utf8.decode? (Percent.decode s)

/-- The user and the password of a URL, with the URL without them; a password that is not UTF-8 counts as none. A user
that is not UTF-8 stays where it is, and so does what names nobody. -/
def takeUserInfo? (u : Url) : Option (List Char × Option (List Char) × Url) :=
  match u.authority with
  | none => none
  | some a =>
    match decoded? a.user with
    | none => none
    | some user =>
      let password := a.password.bind decoded?
      if user.isEmpty && password.isNone then none
      else some (user, password, { u with authority := some { a with user := [], password := none } })

end Url

/-- The value of the header that tells who asks. -/
def basicCredentials (user : List Char) (password : Option (List Char)) : List Char :=
  "Basic ".toList ++ Base64.encode (Utf8.encode (user ++ ':' :: password.getD []))

namespace Config

/-- The error for a request that has no address. -/
def notAddressable (path : List Char) (f : Url.Fault) : Error :=
  .input ("invalid request path '".toList ++ path ++ "': ".toList ++ f.message)

/-- The address of a request. -/
def urlFor (c : Config) (r : Request) : Except Error Url :=
  match Url.parse (c.baseUrl ++ r.path) with
  | .error f => .error (notAddressable r.path f)
  | .ok u => .ok (u.appendQuery r.query)

/-- The headers of every request. -/
def fixedHeaders (c : Config) : List Header :=
  [("content-type".toList, "application/json".toList), ("service_id".toList, c.serviceId)]

/-- A request as it is sent. -/
def outgoing (c : Config) (r : Request) : Except Error Outgoing :=
  (c.urlFor r).map fun u =>
    let body := r.body.map Json.compact
    match u.takeUserInfo? with
    | none => { method := r.method, url := u, headers := c.fixedHeaders, body }
    | some (user, password, bare) =>
      { method := r.method, url := bare, body,
        headers := ("authorization".toList, basicCredentials user password) :: c.fixedHeaders }

end Config

end PaymentDesk
