import PaymentDesk.Json.Value
import PaymentDesk.Text.Digits
import PaymentDesk.Text.Shortest

/-!
# JSON values in print

In compact text no blanks stand between the tokens: `quote` writes a text, `Number.text` a number, and `compact` a value.

Laid out for reading, each item and each entry stands on a line of its own, indented by four spaces for every array and
object around it. Empty arrays and objects stay on their line. `page` is what a reader sees of a document: its sorted
form, laid out.
-/

namespace PaymentDesk.Json

open PaymentDesk.Text

/-! ## Texts -/

/-- A hexadecimal digit in lower case. -/
def hexDigit (n : Nat) : Char := Nat.digitChar n

/-- The written form of one character inside quotes: control characters, `"` and `\` are escaped, all else is raw. -/
def escape (c : Char) : List Char :=
  if c = '"' then ['\\', '"']
  else if c = '\\' then ['\\', '\\']
  else if c = '\x08' then ['\\', 'b']
  else if c = '\x0c' then ['\\', 'f']
  else if c = '\n' then ['\\', 'n']
  else if c = '\r' then ['\\', 'r']
  else if c = '\t' then ['\\', 't']
  else if c.toNat < 0x20 then ['\\', 'u', '0', '0', hexDigit (c.toNat / 16), hexDigit (c.toNat % 16)]
  else [c]

/-- A text between quotes. -/
def quote (s : List Char) : List Char := '"' :: (s.flatMap escape ++ ['"'])

/-! ## Numbers -/

/-- Digits in plain notation, always with a point between two digits. -/
def plainNotation (d : Decimals) : List Char :=
  if d.point ≤ 0 then '0' :: '.' :: (List.replicate (-d.point).toNat '0' ++ d.digits)
  else
    let k := d.point.toNat
    if k < d.digits.length then d.digits.take k ++ '.' :: d.digits.drop k
    else d.digits ++ List.replicate (k - d.digits.length) '0' ++ ['.', '0']

/-- Digits in scientific notation: one digit before the point, and the sign of the exponent always written. -/
def scientificNotation (d : Decimals) : List Char :=
  let e := d.point - 1
  d.digits.take 1 ++ (if d.digits.length ≤ 1 then [] else '.' :: d.digits.drop 1) ++
    'e' :: (if e < 0 then '-' else '+') :: Decimal.ofNat e.natAbs

/-- The text of a binary64 number. The exponents from -5 to 15 are written in plain notation. -/
def realText (x : Float) : List Char :=
  let bits := x.toBits
  let digits := match Binary.ofBits bits with
    | none => ['0', '.', '0']
    | some b =>
      let d := b.shortest
      if -5 < d.point ∧ d.point ≤ 16 then plainNotation d else scientificNotation d
  if bits.toNat < Nat.pow 2 63 then digits else '-' :: digits

/-- The text of a number. -/
def Number.text : Number → List Char
  | .int n => Decimal.ofInt n
  | .real x => realText x

/-! ## Values -/

/-- The text of a truth value. -/
def boolText (b : Bool) : List Char := if b then "true".toList else "false".toList

mutual

/-- The compact text of a value. -/
def compact : Value → List Char
  | .null => "null".toList
  | .bool b => boolText b
  | .number n => n.text
  | .string s => quote s
  | .array [] => ['[', ']']
  | .array (v :: r) => '[' :: (compact v ++ compactItems r)
  | .object [] => ['\x7b', '\x7d']
  | .object ((k, v) :: r) => '\x7b' :: (quote k ++ ':' :: (compact v ++ compactEntries r))

/-- The items of an array after its first, up to the closing bracket. -/
def compactItems : List Value → List Char
  | [] => [']']
  | v :: r => ',' :: (compact v ++ compactItems r)

/-- The entries of an object after its first, up to the closing brace. -/
def compactEntries : List (List Char × Value) → List Char
  | [] => ['\x7d']
  | (k, v) :: r => ',' :: (quote k ++ ':' :: (compact v ++ compactEntries r))

end

/-! ## Values laid out for reading -/

/-- A line end and the indentation of the line after it, inside `depth` arrays and objects. -/
def newLine (depth : Nat) : List Char := '\n' :: List.replicate (4 * depth) ' '

mutual

/-- A value laid out inside `depth` arrays and objects. -/
def layout (depth : Nat) : Value → List Char
  | .array (v :: r) => '[' :: (newLine (depth + 1) ++ layout (depth + 1) v ++ layoutItems depth r)
  | .object ((k, v) :: r) =>
    '\x7b' :: (newLine (depth + 1) ++ quote k ++ ':' :: ' ' :: layout (depth + 1) v ++ layoutEntries depth r)
  | .array [] => ['[', ']']
  | .object [] => ['\x7b', '\x7d']
  | .null => "null".toList
  | .bool b => boolText b
  | .number n => n.text
  | .string s => quote s

/-- The items of an array after its first, up to the closing bracket. -/
def layoutItems (depth : Nat) : List Value → List Char
  | [] => newLine depth ++ [']']
  | v :: r => ',' :: (newLine (depth + 1) ++ layout (depth + 1) v ++ layoutItems depth r)

/-- The entries of an object after its first, up to the closing brace. -/
def layoutEntries (depth : Nat) : List (List Char × Value) → List Char
  | [] => newLine depth ++ ['\x7d']
  | (k, v) :: r =>
    ',' :: (newLine (depth + 1) ++ quote k ++ ':' :: ' ' :: layout (depth + 1) v ++ layoutEntries depth r)

end

/-- A document with sorted keys, laid out. -/
def page (v : Value) : List Char := layout 0 (sortKeys v)

end PaymentDesk.Json
