import PaymentDesk.Text.Fields
import PaymentDesk.Text.Utf8

/-!
# Percent encoding and form encoding

A byte can be written as `%` and two hexadecimal digits. `Percent.encode` writes a text, leaving alone the characters
that a part of a URL may hold as they are; `Percent.decode` reads bytes back and leaves alone what is no encoded byte.

A query is a list of pairs, written as `key=value` and joined by `&`. A space is written as `+`, letters, digits and
`*-._` stand for themselves, and every other byte is percent-encoded (`Form.encode`). `Form.decode` reads the pairs
back.
-/

namespace PaymentDesk.Url

open Text

/-! ## Percent encoding -/

namespace Percent

/-! ### Writing -/

/-- A hexadecimal digit in upper case. -/
def upperDigit (n : Nat) : Char := (Nat.digitChar n).toUpper

/-- A byte as `%` and two digits. -/
def encodeByte (b : UInt8) : List Char := ['%', upperDigit (b.toNat / 16), upperDigit (b.toNat % 16)]

/-- A character as its encoded bytes. -/
def encodeChar (c : Char) : List Char := (Utf8.encodeChar c).flatMap encodeByte

/-- A text in which only the characters with `keep` stand for themselves. -/
def encode (keep : Char → Bool) (s : List Char) : List Char :=
  s.flatMap fun c => if keep c then [c] else encodeChar c

/-! ### What may stand for itself -/

/-- Printable ASCII. -/
def inOpaque (c : Char) : Bool := 0x20 ≤ c.toNat && c.toNat ≤ 0x7E

/-- Printable ASCII without some characters. -/
def without (excluded : String) (c : Char) : Bool := inOpaque c && ! excluded.toList.contains c

/-- In a fragment. -/
def inFragment : Char → Bool := without " \"<>`"

/-- In a query. -/
def inQuery : Char → Bool := without " \"#<>"

/-- In a query of a special URL. -/
def inSpecialQuery : Char → Bool := without " \"#<>'"

/-- In a path. -/
def inPath : Char → Bool := without " \"<>`#?\x7b\x7d"

/-- In a user name or a password. -/
def inUserInfo : Char → Bool := without " \"<>`#?\x7b\x7d/:;=@[\\]^|"

/-! ### Reading -/

/-- The bytes that a text stands for. -/
def decode : List Char → List UInt8
  | [] => []
  | '%' :: a :: b :: r =>
    match Hexadecimal.digit? a, Hexadecimal.digit? b with
    | some m, some n => UInt8.ofNat (m * 16 + n) :: decode r
    | _, _ => 37 :: decode (a :: b :: r)
  | c :: r => Utf8.encodeChar c ++ decode r

end Percent

/-! ## Form encoding -/

namespace Form

/-- The characters that stand for themselves. -/
def isPlain (c : Char) : Bool := c.isAlphanum || c == '*' || c == '-' || c == '.' || c == '_'

/-- A key or a value. -/
def encodeText (s : List Char) : List Char :=
  s.flatMap fun c => if c = ' ' then ['+'] else if isPlain c then [c] else Percent.encodeChar c

/-- A pair. -/
def encodePair (p : List Char × List Char) : List Char := encodeText p.1 ++ '=' :: encodeText p.2

/-- A list of pairs. -/
def encode (ps : List (List Char × List Char)) : List Char := ['&'].intercalate (ps.map encodePair)

/-- The text that a key or a value stands for. -/
def decodeText (s : List Char) : List Char :=
  Utf8.decodeLossy (Percent.decode (s.map fun c => if c = '+' then ' ' else c))

/-- The pair that a part of a query stands for; what follows the first `=` is the value. -/
def decodePair (s : List Char) : List Char × List Char :=
  (decodeText (s.takeWhile (· != '=')), decodeText ((s.dropWhile (· != '=')).drop 1))

/-- The pairs of a query; nothing between two `&` counts for nothing. -/
def decode (s : List Char) : List (List Char × List Char) :=
  ((fields (· == '&') s).filter (! ·.isEmpty)).map decodePair

end Form

end PaymentDesk.Url
