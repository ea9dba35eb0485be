/-!
# Punycode

A text with few characters outside ASCII is written in ASCII alone. The ASCII characters come first; the others are then
inserted one by one, in ascending order of their codes and, for one code, from left to right (`insertions`). An
insertion is written as one number, the distance from the one before when all pairs of a code and a place are counted
through, in digits whose weights adapt to the distances so far (`Cursor`).

`decode?` makes the insertions that the numbers tell, and `encode` writes the numbers.
-/

namespace PaymentDesk.Url.Domain.Punycode

/-! ## Numbers -/

/-- The digit for a value below 36. -/
def digit (n : Nat) : Char := if n < 26 then Char.ofNat ('a'.toNat + n) else Char.ofNat ('0'.toNat + (n - 26))

/-- The value of a digit. -/
def digit? (c : Char) : Option Nat :=
  if 'a' ≤ c ∧ c ≤ 'z' then some (c.toNat - 'a'.toNat)
  else if 'A' ≤ c ∧ c ≤ 'Z' then some (c.toNat - 'A'.toNat)
  else if '0' ≤ c ∧ c ≤ '9' then some (c.toNat - '0'.toNat + 26)
  else none

/-- The least value of a digit at place `k` after which the number goes on. -/
def threshold (k bias : Nat) : Nat := min 26 (max 1 (k - bias))

theorem threshold_pos (k bias : Nat) : 0 < threshold k bias := by
  simp only [threshold]
  omega

/-- The digits of a number, from place `k` on. -/
def number (bias n k : Nat) : List Char :=
  let t := threshold k bias
  if _h : n < t then [digit n] else digit (t + (n - t) % (36 - t)) :: number bias ((n - t) / (36 - t)) (k + 36)
termination_by n
decreasing_by
  have := threshold_pos k bias
  exact Nat.lt_of_le_of_lt (Nat.div_le_self _ _) (by omega)

/-- The bias for a distance that has been scaled down: 36 for each division by 35 until it is at most 455, and a part of
36 for what is left. -/
def biasOf (distance : Nat) : Nat :=
  if 455 < distance then 36 + biasOf (distance / 35) else 36 * distance / (distance + 38)
termination_by distance

/-! ## Cursors -/

/-- What an insertion depends on: the code inserted last and the place after it, the bias of the next number, and how
many characters there are. -/
structure Cursor where
  code : Nat := 128
  place : Nat := 0
  bias : Nat := 72
  count : Nat
  deriving DecidableEq, Repr

namespace Cursor

/-- No insertion has been made. -/
def isFresh (c : Cursor) : Bool := c.place == 0

/-- The cursor after an insertion at some distance. The first distance is large and counts for less. -/
def insert (c : Cursor) (code place distance : Nat) : Cursor :=
  let count := c.count + 1
  let scaled := if c.isFresh then distance / 700 else distance / 2
  { code, place := place + 1, bias := biasOf (scaled + scaled / count), count }

/-- The distance of an insertion. -/
def distance (c : Cursor) (code place : Nat) : Nat := (code - c.code) * (c.count + 1) + place - c.place

/-- The code and the place at a distance. -/
def at? (c : Cursor) (distance : Nat) : Option (Nat × Nat) :=
  let n := c.place + distance
  let code := c.code + n / (c.count + 1)
  if code < 0xD800 ∨ (0xDFFF < code ∧ code ≤ 0x10FFFF) then some (code, n % (c.count + 1)) else none

end Cursor

/-! ## Reading -/

/-- A text with a character put at a place. -/
def insertAt (s : List Char) (code place : Nat) : List Char := s.take place ++ Char.ofNat code :: s.drop place

/-- Reads numbers and makes their insertions; `distance`, `k` and `weight` are the value of the number begun, and the
place and the weight of its next digit. -/
def readFrom? (c : Cursor) (s : List Char) (distance k weight : Nat) : List Char → Option (List Char)
  | [] => if k = 36 then some s else none
  | d :: r =>
    match digit? d with
    | none => none
    | some n =>
      let distance := distance + n * weight
      let t := threshold k c.bias
      if n < t then
        match c.at? distance with
        | none => none
        | some (code, place) => readFrom? (c.insert code place distance) (insertAt s code place) 0 36 1 r
      else readFrom? c s distance (k + 36) (weight * (36 - t)) r

/-- The text that an encoded text stands for. What follows the last hyphen are numbers; a hyphen with nothing in front
of it is no digit and ends no ASCII characters. -/
def decode? (s : List Char) : Option (List Char) :=
  if s.all fun c => c.toNat < 128 then
    let digits := (s.reverse.takeWhile (· != '-')).reverse
    match s.take (s.length - digits.length - 1) with
    | [] => readFrom? { count := 0 } [] 0 36 1 s
    | ascii => readFrom? { count := ascii.length } ascii 0 36 1 digits
  else none

/-! ## Writing -/

/-- The places of a code when the text holds nothing but the smaller codes and what is in front of the place; `before`
is how many such characters have been passed. -/
def places (code before : Nat) : List Char → List Nat
  | [] => []
  | c :: r =>
    if c.toNat < code then places code (before + 1) r
    else if c.toNat = code then before :: places code (before + 1) r
    else places code before r

/-- The codes outside ASCII, in ascending order. -/
def codes (s : List Char) : List Nat := ((s.map Char.toNat).filter (128 ≤ ·)).mergeSort.eraseDups

/-- The codes and the places of all insertions, in order. -/
def insertions (s : List Char) : List (Nat × Nat) := (codes s).flatMap fun code => (places code 0 s).map (code, ·)

/-- Writes the numbers of insertions. -/
def numbers (c : Cursor) : List (Nat × Nat) → List Char
  | [] => []
  | (code, place) :: r =>
    let distance := c.distance code place
    number c.bias distance 36 ++ numbers (c.insert code place distance) r

/-- A text in ASCII. -/
def encode (s : List Char) : List Char :=
  let ascii := s.filter fun c => c.toNat < 128
  (if ascii.isEmpty then [] else ascii ++ ['-']) ++ numbers { count := ascii.length } (insertions s)

end PaymentDesk.Url.Domain.Punycode
