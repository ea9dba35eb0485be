import PaymentDesk.Text.Digits
import PaymentDesk.Text.Fields

/-!
# IPv4 addresses

A domain whose last label is a number is an address. It has one to four parts, in decimal, in octal after `0`, or in
hexadecimal after `0x`; the last part fills all the bytes that are left.
-/

namespace PaymentDesk.Url.Ipv4

open Text

/-- The value of the digits of a text in base 8, 10 or 16, if all are digits of the base. -/
def digits? (base : Nat) (s : List Char) : Option Nat :=
  s.foldlM (fun n c => match Hexadecimal.digit? c with
    | some d => if d < base then some (n * base + d) else none
    | none => none) 0

/-- The number that a part stands for. -/
def part? : List Char → Option Nat
  | [] => none
  | '0' :: 'x' :: r => digits? 16 r
  | '0' :: 'X' :: r => digits? 16 r
  | '0' :: c :: r => digits? 8 (c :: r)
  | s => digits? 10 s

/-- The parts of a domain; a last part that is empty does not count. -/
def parts (s : List Char) : List (List Char) :=
  let ps := fields (· == '.') s
  if 1 < ps.length && ps.getLast?.any (·.isEmpty) then ps.dropLast else ps

/-- The last part of a domain is a number. -/
def endsInNumber (s : List Char) : Bool :=
  match (parts s).getLast? with
  | none => false
  | some p => (! p.isEmpty && p.all (fun c => (Decimal.digit? c).isSome)) || (part? p).isSome

/-- The address of some parts: all but the last are bytes. -/
def assemble? : Nat → List Nat → Option Nat
  | _, [] => none
  | width, [n] => if n < Nat.pow 256 width then some n else none
  | width, n :: r =>
    if n < 256 then (assemble? (width - 1) r).map (n * Nat.pow 256 (width - 1) + ·) else none

/-- The address that a domain stands for. -/
def parse? (s : List Char) : Option Nat :=
  let ps := parts s
  if 4 < ps.length then none else (ps.mapM part?).bind (assemble? 4)

/-- An address as four decimal bytes. -/
def text (n : Nat) : List Char :=
  ['.'].intercalate ([n / 16777216, n / 65536 % 256, n / 256 % 256, n % 256].map Decimal.ofNat)

end PaymentDesk.Url.Ipv4
