import PaymentDesk.Text.Digits
import PaymentDesk.Text.Fields

/-!
# IPv6 addresses

An address has eight pieces of one to four hexadecimal digits, joined by `:`. One run of zero pieces may be left out,
which leaves `::`, and the last two pieces may be written as an IPv4 address. In print the longest run of zeros, if it
has at least two, is left out.
-/

namespace PaymentDesk.Url.Ipv6

open Text

/-! ## Reading -/

/-- A piece. -/
def piece? (s : List Char) : Option Nat :=
  if 1 ≤ s.length ∧ s.length ≤ 4 then
    s.foldlM (fun n c => (Hexadecimal.digit? c).map (n * 16 + ·)) 0
  else none

/-- A byte in decimal, without zeros in front. -/
def byte? (s : List Char) : Option Nat :=
  match s with
  | '0' :: _ :: _ => none
  | '+' :: _ => none
  | _ => (Decimal.read 256 s).toOption

/-- The two pieces that an IPv4 address stands for. -/
def dotted? (s : List Char) : Option (List Nat) :=
  match (Text.fields (· == '.') s).mapM byte? with
  | some [a, b, c, d] => some [a * 256 + b, c * 256 + d]
  | _ => none

/-- The pieces of a list of fields, of which the last may be an IPv4 address. -/
def pieces? : List (List Char) → Option (List Nat)
  | [] => some []
  | [f] => if f.contains '.' then dotted? f else (piece? f).map ([·])
  | f :: r => do
    let n ← piece? f
    let ns ← pieces? r
    some (n :: ns)

/-- The pieces of a list of fields without an IPv4 address. -/
def plainPieces? (fs : List (List Char)) : Option (List Nat) := fs.mapM piece?

/-- The fields of a text between `:`, of which there are none in an empty text. -/
def fields (s : List Char) : List (List Char) := if s.isEmpty then [] else Text.fields (· == ':') s

/-- The texts before and after the first `::`. -/
def cut? : List Char → Option (List Char × List Char)
  | [] => none
  | ':' :: ':' :: r => some ([], r)
  | c :: r => (cut? r).map fun p => (c :: p.1, p.2)

/-- The eight pieces that a text stands for. -/
def parse? (s : List Char) : Option (List Nat) :=
  match cut? s with
  | none => (pieces? (fields s)).filter (·.length == 8)
  | some (before, after) => do
    let left ← plainPieces? (fields before)
    let right ← pieces? (fields after)
    if left.length + right.length ≤ 7 then
      some (left ++ List.replicate (8 - left.length - right.length) 0 ++ right)
    else none

/-! ## Printing -/

/-- The number of zeros at the start. -/
def zeros (ps : List Nat) : Nat := (ps.takeWhile (· == 0)).length

/-- The place and the length of the longest run of zeros, the first of equal ones, that starts at `i` or later. -/
def longestRun (i : Nat) : List Nat → Nat × Nat
  | [] => (i, 0)
  | p :: r =>
    let here := zeros (p :: r)
    let later := longestRun (i + 1) r
    if later.2 ≤ here then (i, here) else later

/-- Pieces joined by `:`. -/
def join (ps : List Nat) : List Char := [':'].intercalate (ps.map (Nat.toDigits 16))

/-- An address with its longest run of zeros left out. -/
def text (ps : List Nat) : List Char :=
  let (i, n) := longestRun 0 ps
  if n < 2 then join ps else join (ps.take i) ++ [':', ':'] ++ join (ps.drop (i + n))

end PaymentDesk.Url.Ipv6
