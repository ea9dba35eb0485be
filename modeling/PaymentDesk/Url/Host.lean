import PaymentDesk.Url.Domain
import PaymentDesk.Url.Ipv4
import PaymentDesk.Url.Ipv6
import PaymentDesk.Url.Percent

/-!
# Hosts

A host is a domain or an address. In URLs of the known schemes a domain is percent-decoded and brought into ASCII; in
others it is kept as an opaque text (`Host.parseOpaque`). A text that is no URL is refused with a `Fault`, most often
over its host.
-/

namespace PaymentDesk.Url

open Text

/-! ## Why a text is no URL -/

/-- What was wrong. -/
inductive Fault where
  | emptyHost
  | domain
  | port
  | ipv4
  | ipv6
  | hostCharacter
  | relative
  deriving DecidableEq, Repr

/-- The wording of a fault. -/
def Fault.message : Fault → List Char
  | .emptyHost => "empty host".toList
  | .domain => "invalid international domain name".toList
  | .port => "invalid port number".toList
  | .ipv4 => "invalid IPv4 address".toList
  | .ipv6 => "invalid IPv6 address".toList
  | .hostCharacter => "invalid domain character".toList
  | .relative => "relative URL without a base".toList

/-! ## Hosts -/

/-- The machine that a URL points to. -/
inductive Host where
  | domain (name : List Char)
  | ipv4 (address : Nat)
  | ipv6 (pieces : List Nat)
  deriving DecidableEq, Repr

namespace Host

/-- A host as it stands in a URL. -/
def text : Host → List Char
  | .domain name => name
  | .ipv4 n => Ipv4.text n
  | .ipv6 ps => '[' :: (Ipv6.text ps ++ [']'])

/-- The IPv6 address in a text that starts with a bracket; the bracket itself is not part of the argument. -/
def bracketed (s : List Char) : Except Fault Host :=
  if s.getLast? == some ']' then
    match Ipv6.parse? s.dropLast with
    | some ps => .ok (.ipv6 ps)
    | none => .error .ipv6
  else .error .ipv6

/-- The host that a text stands for in a URL of a known scheme. -/
def parse : List Char → Except Fault Host
  | '[' :: r => bracketed r
  | s =>
    match (Utf8.decode? (Percent.decode s)).bind Domain.toAscii? with
    | none => .error .domain
    | some [] => .error .emptyHost
    | some name =>
      if Ipv4.endsInNumber name then
        match Ipv4.parse? name with
        | some n => .ok (.ipv4 n)
        | none => .error .ipv4
      else .ok (.domain name)

/-- A character that no opaque host may hold. -/
def isForbidden (c : Char) : Bool :=
  c.toNat == 0 || c == '\t' || c == '\n' || c == '\r' || " #/:<>?@[\\]^|".toList.contains c

/-- The host that a text stands for in a URL of an unknown scheme. -/
def parseOpaque : List Char → Except Fault Host
  | '[' :: r => bracketed r
  | s => if s.any isForbidden then .error .hostCharacter else .ok (.domain (Percent.encode Percent.inOpaque s))

end Host

end PaymentDesk.Url
