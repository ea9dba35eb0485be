import PaymentDesk.Url.Parser

/-!
# References

A reference names a place as seen from another one (`Reference.resolve`): the scheme may be left out, and the authority
with it, and a path may go on from the place it is seen from. `Reference.read?` takes a text apart and is strict about
it: a character that a part may not hold, such as a space, or a `%` without two hexadecimal digits behind it makes the
text no reference at all. What is named in the end is read like any URL (`Reference.url`), if it could be the address of
a request (`Reference.isAddress`).
-/

namespace PaymentDesk.Url

open Text

/-- A reference in its parts, as they are written. -/
structure Reference extends Tail where
  scheme : Option (List Char)
  authority : Option (List Char)

namespace Reference

/-! ## What the parts may hold -/

/-- A character that stands for itself in every part. -/
def isPlain (c : Char) : Bool := c.isAlphanum || "-._~!$&'()*+,;=".toList.contains c

/-- A text of characters with `keep` and of encoded bytes. -/
def isEncoded (keep : Char → Bool) : List Char → Bool
  | [] => true
  | '%' :: a :: b :: r => (Hexadecimal.digit? a).isSome && (Hexadecimal.digit? b).isSome && isEncoded keep r
  | c :: r => keep c && isEncoded keep r

/-- In a user name or a password. -/
def inUserInfo (c : Char) : Bool := isPlain c || c == ':'

/-- In a path. -/
def inPath (c : Char) : Bool := inUserInfo c || c == '@' || c == '/'

/-- In a query or a fragment. -/
def inQuery (c : Char) : Bool := inPath c || c == '?'

/-- An address of a later version than the sixth: a version and a dot, and whatever that version wants. -/
def isFutureAddress : List Char → Bool
  | v :: s =>
    let version := s.takeWhile fun c => (Hexadecimal.digit? c).isSome
    match s.drop version.length with
    | '.' :: a :: r => v.toLower == 'v' && ! version.isEmpty && (a :: r).all inUserInfo
    | _ => false
  | [] => false

/-- A name, or an address in brackets. -/
def isHost : List Char → Bool
  | '[' :: r => r.getLast? == some ']' && ((Ipv6.parse? r.dropLast).isSome || isFutureAddress r.dropLast)
  | s => isEncoded isPlain s

/-- A user, a host and a port. -/
def isAuthority (s : List Char) : Bool :=
  let (info, rest) := splitUserInfo s
  let (host, port) := splitPort false rest
  info.all (isEncoded inUserInfo) && isHost host && (port.drop 1).all Char.isDigit

/-- Every part holds what it may. A colon in the first segment of a path would end a scheme. -/
def isValid (r : Reference) : Bool :=
  r.authority.all isAuthority && isEncoded inPath r.path && r.query.all (isEncoded inQuery) &&
    r.fragment.all (isEncoded inQuery) &&
    (r.scheme.isSome || r.authority.isSome || ! (r.path.takeWhile (· != '/')).contains ':')

/-! ## Reading and resolving -/

/-- The reference that a text is. -/
def read? (s : List Char) : Option Reference :=
  let (scheme, rest) := match splitScheme s with
    | some (scheme, rest) => (some scheme, rest)
    | none => (none, s)
  let (authority, rest) := match rest with
    | '/' :: '/' :: r => (some (r.takeWhile (! endsAuthority false ·)), r.dropWhile (! endsAuthority false ·))
    | _ => (none, rest)
  let r : Reference := { splitTail rest with scheme, authority }
  if r.isValid then some r else none

/-- The place that a reference names as seen from another place. -/
def resolve (base r : Reference) : Reference :=
  match r.scheme, r.authority, r.path with
  | some _, _, _ => r
  | none, some _, _ => { r with scheme := base.scheme }
  | none, none, [] => { base with query := r.query.or base.query, fragment := r.fragment }
  | none, none, '/' :: _ => { r with scheme := base.scheme, authority := base.authority }
  | none, none, path =>
    let above := (base.path.reverse.dropWhile (· != '/')).reverse
    { r with scheme := base.scheme, authority := base.authority, path := above ++ path }

/-- A reference as text. -/
def text (r : Reference) : List Char :=
  (match r.scheme with | some s => s ++ [':'] | none => []) ++
    (match r.authority with | some a => '/' :: '/' :: a | none => []) ++ r.path ++
    (match r.query with | some q => '?' :: q | none => []) ++ (match r.fragment with | some f => '#' :: f | none => [])

/-- A host and perhaps a port, without encoded bytes. -/
def isServer (s : List Char) : Bool := ! s.isEmpty && ! s.contains '%'

/-- A request can be addressed to it. What has no authority must look like one from its scheme on. -/
def isAddress (r : Reference) : Bool :=
  r.text.length < 65535 &&
    match r.authority with
    | some a => isServer (splitUserInfo a).2
    | none =>
      let server := (splitUserInfo r.text).2
      r.query.isNone && r.fragment.isNone && ! r.path.contains '/' && isServer server && server.count ':' ≤ 1

/-- The URL of a place. The fragment is of no use to a server, and a special URL needs an authority here. -/
def url (r : Reference) : Except Fault Url :=
  if r.authority.isNone && r.scheme.any isSpecial then .error .emptyHost
  else (Url.parse r.text).map fun u => { u with fragment := none }

end Reference

/-- What a text names as seen from a URL, if it is a reference to something that a request can be addressed to. -/
def lead? (base : Url) (s : List Char) : Option (Except Fault Url) := do
  let here ← Reference.read? { base with fragment := none }.text
  let r ← Reference.read? s
  let place := here.resolve r
  if place.isAddress then some place.url else none

end PaymentDesk.Url
