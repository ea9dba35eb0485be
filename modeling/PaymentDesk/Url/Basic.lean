import PaymentDesk.Text.Digits
import PaymentDesk.Url.Host

/-!
# URLs

A URL has a scheme, perhaps an authority (a user, a host and a port), a path, and perhaps a query and a fragment. All
texts in it are already encoded; `Url.text` only puts them together. A path is a list of segments, or an opaque text in
URLs such as `mailto:a`.
-/

namespace PaymentDesk

namespace Url

/-- Who is addressed where. A port that is the default of the scheme is left out. -/
structure Authority where
  user : List Char := []
  password : Option (List Char) := none
  host : Host
  port : Option Nat := none
  deriving DecidableEq, Repr

/-- The user and the password are part of the authority. -/
def Authority.hasUserInfo (a : Authority) : Bool := ! a.user.isEmpty || a.password.isSome

/-- An authority as it stands in a URL. -/
def Authority.text (a : Authority) : List Char :=
  (if a.hasUserInfo then
    a.user ++ (match a.password with | some p => ':' :: p | none => []) ++ ['@']
  else []) ++ a.host.text ++ (match a.port with | some n => ':' :: Text.Decimal.ofNat n | none => [])

/-- The path of a URL. -/
inductive Path where
  | segments (list : List (List Char))
  | unstructured (text : List Char)
  deriving DecidableEq, Repr

/-- Segments with a slash in front of each. -/
def slashed (segments : List (List Char)) : List Char := segments.flatMap ('/' :: ·)

/-- A path as it stands in a URL. -/
def Path.text : Path → List Char
  | .segments l => slashed l
  | .unstructured t => t

/-- The segments of a path; an opaque path has none. -/
def Path.list : Path → List (List Char)
  | .segments l => l
  | .unstructured _ => []

end Url

/-- A URL. -/
structure Url where
  scheme : List Char
  authority : Option Url.Authority
  path : Url.Path
  query : Option (List Char) := none
  fragment : Option (List Char) := none
  deriving DecidableEq, Repr

namespace Url

/-- The path and the query, as a request names them. -/
def target (u : Url) : List Char :=
  u.path.text ++ (match u.query with | some q => '?' :: q | none => [])

/-- A path that starts with an empty segment is kept apart from an authority by `/.`. -/
def pathGuard (u : Url) : List Char :=
  match u.authority, u.path with
  | none, .segments ([] :: _ :: _) => ['/', '.']
  | _, _ => []

/-- A URL as text. -/
def text (u : Url) : List Char :=
  u.scheme ++ ':' :: (match u.authority with | some a => '/' :: '/' :: a.text | none => []) ++ u.pathGuard ++
    u.target ++ (match u.fragment with | some f => '#' :: f | none => [])

end Url

end PaymentDesk
