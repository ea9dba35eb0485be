/-!
# Numbers in digits

In decimal, `ofNat` and `ofInt` write numbers without leading zeros, and `read` reads an unsigned number below a bound:
an optional `+`, then one or more digits, the first offence from the left deciding the fault. Hexadecimal digits are
read in either case (`Hexadecimal.digit?`), and `Hexadecimal.value` reads all the digits of a text as one number.
-/

namespace PaymentDesk.Text

/-! ## Decimal numbers -/

namespace Decimal

/-- The digits of a natural number. -/
def ofNat (n : Nat) : List Char := Nat.toDigits 10 n

/-- The digits of an integer, after a `-` when it is negative. -/
def ofInt : Int → List Char
  | .ofNat n => ofNat n
  | .negSucc n => '-' :: ofNat (n + 1)

/-- The value of a decimal digit. -/
def digit? (c : Char) : Option Nat :=
  if '0' ≤ c ∧ c ≤ '9' then some (c.toNat - '0'.toNat) else none

/-- Why a text is no number of the wanted range. -/
inductive Fault where
  | empty
  | invalidDigit
  | tooLarge
  deriving DecidableEq, Repr

/-- The wording of a fault. -/
def Fault.message : Fault → List Char
  | .empty => "cannot parse integer from empty string".toList
  | .invalidDigit => "invalid digit found in string".toList
  | .tooLarge => "number too large to fit in target type".toList

/-- Goes on reading digits after a value, all below `bound`. -/
def readFrom (bound : Nat) (acc : Nat) : List Char → Except Fault Nat
  | [] => .ok acc
  | c :: r => match digit? c with
    | none => .error .invalidDigit
    | some d => if acc * 10 + d < bound then readFrom bound (acc * 10 + d) r else .error .tooLarge

/-- The number below `bound` that a text denotes. -/
def read (bound : Nat) : List Char → Except Fault Nat
  | [] => .error .empty
  | ['+'] => .error .invalidDigit
  | '+' :: r => readFrom bound 0 r
  | s => readFrom bound 0 s

end Decimal

/-! ## Hexadecimal numbers -/

namespace Hexadecimal

/-- The value of a digit. -/
def digit? (c : Char) : Option Nat :=
  if '0' ≤ c ∧ c ≤ '9' then some (c.toNat - '0'.toNat)
  else if 'A' ≤ c ∧ c ≤ 'F' then some (c.toNat - 'A'.toNat + 10)
  else if 'a' ≤ c ∧ c ≤ 'f' then some (c.toNat - 'a'.toNat + 10)
  else none

/-- The number that the digits of a text spell; other characters count for nothing. -/
def value (s : List Char) : Nat :=
  s.foldl (fun n c => match digit? c with | some d => n * 16 + d | none => n) 0

end Hexadecimal

end PaymentDesk.Text
