import PaymentDesk.Url.Basic

/-!
# Reading URLs

`Url.parse` reads an absolute URL. Control characters and spaces around the text are dropped, and so are tabs and line
ends anywhere in it. The schemes `http`, `https`, `ws`, `wss` and `ftp` are special: any number of slashes may stand
before their authority, and a backslash counts as a slash.
-/

namespace PaymentDesk.Url

open Text

/-! ## Parts of the text -/

/-- A control character of ASCII, or a space. -/
def isControlOrSpace (c : Char) : Bool := c.toNat ≤ 0x20

/-- A tab or a line end. -/
def isTabOrLineEnd (c : Char) : Bool := c == '\t' || c == '\n' || c == '\r'

/-- The text without what counts for nothing. -/
def clean (s : List Char) : List Char :=
  ((s.dropWhile isControlOrSpace).reverse.dropWhile isControlOrSpace).reverse.filter (! isTabOrLineEnd ·)

/-- A character that a scheme may hold after its first letter. -/
def isSchemeChar (c : Char) : Bool := c.isAlphanum || c == '+' || c == '-' || c == '.'

/-- The scheme, in small letters, and the text after its colon. -/
def splitScheme (s : List Char) : Option (List Char × List Char) :=
  match s.headD ':' |>.isAlpha, s.dropWhile isSchemeChar with
  | true, ':' :: r => some ((s.takeWhile isSchemeChar).map Char.toLower, r)
  | _, _ => none

/-- A slash, or a backslash in a special URL. -/
def isSlash (special : Bool) (c : Char) : Bool := c == '/' || (special && c == '\\')

/-- A character that ends an authority. -/
def endsAuthority (special : Bool) (c : Char) : Bool := isSlash special c || c == '?' || c == '#'

/-- What stands after the authority: the path, the query and the fragment. -/
structure Tail where
  path : List Char
  query : Option (List Char)
  fragment : Option (List Char)

/-- The text from a mark on, without the mark. -/
def after? (mark : Char) (s : List Char) : Option (List Char) :=
  match s.dropWhile (· != mark) with
  | [] => none
  | _ :: r => some r

/-- The parts of a text after the authority. -/
def splitTail (s : List Char) : Tail :=
  let main := s.takeWhile (· != '#')
  { path := main.takeWhile (· != '?'), query := after? '?' main, fragment := after? '#' s }

/-! ## Paths -/

/-- A period, as it is or encoded, at the start of a text. -/
def dropPeriod? : List Char → Option (List Char)
  | '.' :: r => some r
  | '%' :: '2' :: 'e' :: r => some r
  | '%' :: '2' :: 'E' :: r => some r
  | _ => none

/-- A segment for the same place. -/
def isSingleDot (s : List Char) : Bool := dropPeriod? s == some []

/-- A segment for the place above. -/
def isDoubleDot (s : List Char) : Bool := (dropPeriod? s).bind dropPeriod? == some []

/-- Walks along segments as they are written, from a place given by its segments in reverse. -/
def walk (above : List (List Char)) : List (List Char) → List (List Char)
  | [] => above.reverse
  | [s] =>
    if isDoubleDot s then ([] :: above.drop 1).reverse
    else if isSingleDot s then ([] :: above).reverse
    else (Percent.encode Percent.inPath s :: above).reverse
  | s :: r =>
    if isDoubleDot s then walk (above.drop 1) r
    else if isSingleDot s then walk above r
    else walk (Percent.encode Percent.inPath s :: above) r

/-- The segments of a path as it is written; a slash in front counts for nothing. -/
def writtenSegments (special : Bool) (s : List Char) : List (List Char) :=
  match s with
  | c :: r => fields (isSlash special) (if isSlash special c then r else c :: r)
  | [] => [[]]

/-! ## Authorities -/

/-- The port that a scheme has when none is given. -/
def defaultPort? (scheme : List Char) : Option Nat :=
  if scheme = "http".toList ∨ scheme = "ws".toList then some 80
  else if scheme = "https".toList ∨ scheme = "wss".toList then some 443
  else if scheme = "ftp".toList then some 21
  else none

/-- The scheme is one of the special ones with a host. -/
def isSpecial (scheme : List Char) : Bool := (defaultPort? scheme).isSome

/-- The texts before and after the last `@`. -/
def splitUserInfo (s : List Char) : Option (List Char) × List Char :=
  let host := (s.reverse.takeWhile (· != '@')).reverse
  if host.length = s.length then (none, s) else (some (s.take (s.length - host.length - 1)), host)

/-- The host, and the rest from the colon before the port on. A colon inside brackets belongs to the host. -/
def splitPort (inside : Bool) : List Char → List Char × List Char
  | [] => ([], [])
  | c :: r =>
    if c = ':' ∧ ! inside then ([], c :: r)
    else
      let p := splitPort (if c = '[' then true else if c = ']' then false else inside) r
      (c :: p.1, p.2)

/-- The user of a text before `@`. -/
def userOf (s : List Char) : List Char := Percent.encode Percent.inUserInfo (s.takeWhile (· != ':'))

/-- The password of a text before `@`; an empty one counts as none. -/
def passwordOf (s : List Char) : Option (List Char) :=
  match s.dropWhile (· != ':') with
  | [] | [_] => none
  | _ :: p => some (Percent.encode Percent.inUserInfo p)

/-- The port in a text that is empty or starts with a colon. -/
def parsePort (scheme s : List Char) : Except Fault (Option Nat) :=
  match s.drop 1 with
  | [] => .ok none
  | digits =>
    match Decimal.readFrom 65536 0 digits with
    | .ok n => .ok (if some n = defaultPort? scheme then none else some n)
    | .error _ => .error .port

/-- The host of a URL. -/
def parseHost (special : Bool) (s : List Char) : Except Fault Host :=
  if ! special then Host.parseOpaque s
  else if s.isEmpty then .error .emptyHost
  else Host.parse s

/-- The text of the authority at the front of a text. A backslash ends a port in any URL. -/
def authorityText (special : Bool) (s : List Char) : List Char :=
  let whole := s.takeWhile (! endsAuthority special ·)
  let port := (splitPort false (splitUserInfo whole).2).2
  whole.take (whole.length - (port.dropWhile (· != '\\')).length)

/-- The authority of a URL. Without a host there must be neither a user nor a password nor a port. -/
def parseAuthority (scheme s : List Char) : Except Fault Authority := do
  let special := isSpecial scheme
  let (info, rest) := splitUserInfo s
  let (hostText, portText) := splitPort false rest
  let host ← parseHost special hostText
  let noHost := host == .domain []
  if noHost && ! portText.isEmpty then .error .emptyHost
  let port ← parsePort scheme portText
  let authority : Authority := { user := (info.map userOf).getD [], password := info.bind passwordOf, host, port }
  if noHost && authority.hasUserInfo then .error .emptyHost
  .ok authority

/-! ## URLs -/

/-- A URL of a special scheme, from its authority on, after any number of slashes. -/
def parseSpecial (scheme s : List Char) : Except Fault Url := do
  let s := s.dropWhile (isSlash true)
  let written := authorityText true s
  let authority ← parseAuthority scheme written
  let tail := splitTail (s.drop written.length)
  .ok { scheme, authority := some authority, path := .segments (walk [] (writtenSegments true tail.path)),
        query := tail.query.map (Percent.encode Percent.inSpecialQuery),
        fragment := tail.fragment.map (Percent.encode Percent.inFragment) }

/-- A letter and a colon or a bar, which name a drive. -/
def isDrive : List Char → Bool
  | [a, b] => a.isAlpha && (b == ':' || b == '|')
  | _ => false

/-- The host of a file. A drive is none, and `localhost` is the same as none. -/
def parseFileHost (s : List Char) : Except Fault Host :=
  if s.isEmpty || isDrive s then .ok (.domain [])
  else (Host.parse s).map fun h => if h = .domain "localhost".toList then .domain [] else h

/-- A URL of a file. -/
def parseFile (scheme s : List Char) : Except Fault Url := do
  let full := match s with
    | a :: b :: r => if isSlash true a && isSlash true b then some r else none
    | _ => none
  let hostText := (full.getD []).takeWhile (! endsAuthority true ·)
  let host ← parseFileHost hostText
  let rest := match full with
    | some r => if isDrive hostText then r else r.drop hostText.length
    | none => s
  let tail := splitTail rest
  .ok { scheme, authority := some { host }, path := .segments (walk [] (writtenSegments true tail.path)),
        query := tail.query.map (Percent.encode Percent.inSpecialQuery),
        fragment := tail.fragment.map (Percent.encode Percent.inFragment) }

/-- A URL of an unknown scheme. -/
def parseOther (scheme s : List Char) : Except Fault Url := do
  let finish := fun (authority : Option Authority) (path : List Char → Path) (rest : List Char) =>
    let tail := splitTail rest
    ({ scheme, authority, path := path tail.path,
       query := tail.query.map (Percent.encode Percent.inQuery),
       fragment := tail.fragment.map (Percent.encode Percent.inFragment) } : Url)
  let structured := fun p : List Char =>
    if p.isEmpty then Path.segments [] else .segments (walk [] (writtenSegments false p))
  match s with
  | '/' :: '/' :: r =>
    let written := authorityText false r
    let rest := r.drop written.length
    if written = ['@'] ∧ rest ≠ [] then .error .emptyHost
    let authority ← parseAuthority scheme written
    .ok (finish (some authority) structured rest)
  | '/' :: _ => .ok (finish none structured s)
  | _ => .ok (finish none (fun p => .unstructured (Percent.encode Percent.inOpaque p)) s)

/-- A URL after its scheme and the colon. -/
def parseAfterScheme (scheme s : List Char) : Except Fault Url :=
  if isSpecial scheme then parseSpecial scheme s
  else if scheme = "file".toList then parseFile scheme s
  else parseOther scheme s

/-- The absolute URL that a text spells. -/
def parse (s : List Char) : Except Fault Url :=
  match splitScheme (clean s) with
  | some (scheme, r) => parseAfterScheme scheme r
  | none => .error .relative

end PaymentDesk.Url
