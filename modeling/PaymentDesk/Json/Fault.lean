import PaymentDesk.Text.Digits
import PaymentDesk.Text.Utf8

/-!
# Why a text is no JSON document

A reader stops (`Stop`) for one of nineteen causes, in front of the text that is left; how many bytes of that text it
has looked at tells the place that is reported. `Stop.locate` turns this into a line and a column (`Fault`): lines count
from one, and the column is the number of bytes since the start of the line.
-/

namespace PaymentDesk.Json

open PaymentDesk.Text

/-- What was wrong. -/
inductive Cause where
  | endInList
  | endInObject
  | endInString
  | endInValue
  | expectedColon
  | expectedListCommaOrEnd
  | expectedObjectCommaOrEnd
  | expectedIdent
  | expectedValue
  | invalidEscape
  | invalidNumber
  | numberOutOfRange
  | controlCharacter
  | keyMustBeString
  | loneSurrogate
  | trailingComma
  | trailingCharacters
  | unexpectedEndOfEscape
  | recursionLimit
  deriving DecidableEq, Repr

/-- The wording of a cause. -/
def Cause.message : Cause → List Char
  | .endInList => "EOF while parsing a list".toList
  | .endInObject => "EOF while parsing an object".toList
  | .endInString => "EOF while parsing a string".toList
  | .endInValue => "EOF while parsing a value".toList
  | .expectedColon => "expected `:`".toList
  | .expectedListCommaOrEnd => "expected `,` or `]`".toList
  | .expectedObjectCommaOrEnd => "expected `,` or `\x7d`".toList
  | .expectedIdent => "expected ident".toList
  | .expectedValue => "expected value".toList
  | .invalidEscape => "invalid escape".toList
  | .invalidNumber => "invalid number".toList
  | .numberOutOfRange => "number out of range".toList
  | .controlCharacter => "control character (\\u0000-\\u001F) found while parsing a string".toList
  | .keyMustBeString => "key must be a string".toList
  | .loneSurrogate => "lone leading surrogate in hex escape".toList
  | .trailingComma => "trailing comma".toList
  | .trailingCharacters => "trailing characters".toList
  | .unexpectedEndOfEscape => "unexpected end of hex escape".toList
  | .recursionLimit => "recursion limit exceeded".toList

/-- A reader gave up in front of `rest`, of which it had seen the first `seen` bytes. -/
structure Stop where
  cause : Cause
  rest : List Char
  seen : Nat
  deriving DecidableEq, Repr

/-- Gives up because of the next byte, or of the end of the text. -/
def Stop.before (cause : Cause) (rest : List Char) : Stop := ⟨cause, rest, if rest.isEmpty then 0 else 1⟩

/-- A cause with its place. -/
structure Fault where
  cause : Cause
  line : Nat
  column : Nat
  deriving DecidableEq, Repr

/-- The line and the column after some bytes. -/
def place (seen : List UInt8) : Nat × Nat :=
  (1 + seen.count 10, (seen.reverse.takeWhile (· != 10)).length)

/-- The place of a stop in the whole text. -/
def Stop.locate (text : List Char) (s : Stop) : Fault :=
  let seen := (Utf8.encode text).take (Utf8.byteLength text - Utf8.byteLength s.rest + s.seen)
  ⟨s.cause, (place seen).1, (place seen).2⟩

/-- The wording of a fault, with its place. -/
def Fault.message (f : Fault) : List Char :=
  f.cause.message ++ " at line ".toList ++ Decimal.ofNat f.line ++ " column ".toList ++ Decimal.ofNat f.column

end PaymentDesk.Json
