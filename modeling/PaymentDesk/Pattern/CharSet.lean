/-!
# Sets of characters in patterns

A set is a list of ranges of code points, in ascending order and apart from each other (`normal`). The operations of
bracketed sets are union, intersection and the two differences; all come from `union` and `complement`.
-/

namespace PaymentDesk.Pattern

/-- A set of characters, by ranges of code points, both ends included. -/
abbrev CharSet := List (Nat × Nat)

namespace CharSet

/-- Puts a range into ranges in ascending order, joining it to those that it touches. -/
def insert (r : Nat × Nat) : CharSet → CharSet
  | [] => [r]
  | s :: rest =>
    if r.2 + 1 < s.1 then r :: s :: rest
    else if s.2 + 1 < r.1 then s :: insert r rest
    else insert (min r.1 s.1, max r.2 s.2) rest

/-- The ranges of a list in ascending order and apart from each other. -/
def normal (ranges : List (Nat × Nat)) : CharSet := ranges.foldr insert []

/-- The characters from one to another. -/
def between (a b : Char) : CharSet := [(a.toNat, b.toNat)]

/-- A set with a single character. -/
def single (c : Char) : CharSet := between c c

/-- The characters of both sets together. -/
def union (s t : CharSet) : CharSet := normal (s ++ t)

/-- The numbers from `start` to `last` that a set does not hold. -/
def gaps (last start : Nat) : CharSet → CharSet
  | [] => if start ≤ last then [(start, last)] else []
  | r :: rest => (if start < r.1 then [(start, r.1 - 1)] else []) ++ gaps last (r.2 + 1) rest

/-- The greatest code point. -/
def greatest : Nat := 0x10FFFF

/-- The characters that are not in a set. -/
def complement (s : CharSet) : CharSet := gaps greatest 0 s

/-- The characters that are in both sets. -/
def inter (s t : CharSet) : CharSet := complement (union (complement s) (complement t))

/-- The characters that are in the first set only. -/
def diff (s t : CharSet) : CharSet := inter s (complement t)

/-- The characters that are in one set only. -/
def symmDiff (s t : CharSet) : CharSet := union (diff s t) (diff t s)

/-- A character belongs to a set. -/
def contains (s : CharSet) (c : Char) : Bool := s.any fun r => r.1 ≤ c.toNat && c.toNat ≤ r.2

/-- A set holds characters of ASCII only. -/
def isAscii (s : CharSet) : Bool := s.all (·.2 < 0x80)

/-- A set with the other case of each of its letters, as far as ASCII is concerned. -/
def withBothCases (s : CharSet) : CharSet :=
  let small := inter s (between 'a' 'z')
  let large := inter s (between 'A' 'Z')
  union s (union (small.map fun r => (r.1 - 32, r.2 - 32)) (large.map fun r => (r.1 + 32, r.2 + 32)))

/-- The letters, digits and the low line of ASCII. -/
def wordChars : CharSet := normal [(0x30, 0x39), (0x41, 0x5A), (0x5F, 0x5F), (0x61, 0x7A)]

end CharSet

end PaymentDesk.Pattern
