/-!
# The fewest decimal digits of a binary fraction

A positive binary64 number is `m · 2 ^ q`. The reals that round to it form an interval around it, ends included iff `m`
is even (`Binary.accepts`). `shortest` tries 1, 2, … 17 digits: on the decimal grid with that many digits it looks at
the two neighbours of the number, and the first grid of which one lies in the interval gives the answer, the nearer of
two and the even one on a tie.
-/

namespace PaymentDesk.Text

/-- A positive number `m · 2 ^ q`; `narrow` says that the gap to the next smaller number is half the gap above. -/
structure Binary where
  m : Nat
  q : Int
  narrow : Bool
  deriving DecidableEq, Repr

/-- A positive decimal `0.d₁d₂… · 10 ^ point`. -/
structure Decimals where
  digits : List Char
  point : Int
  deriving DecidableEq, Repr

namespace Binary

/-- The number in the bits of a binary64 value, its sign apart; `none` for zero, infinities and what is no number. -/
def ofBits (bits : UInt64) : Option Binary :=
  let fraction : Nat := bits.toNat % Nat.pow 2 52
  let exponent : Nat := bits.toNat / Nat.pow 2 52 % Nat.pow 2 11
  if exponent = 2047 then none
  else if exponent = 0 then if fraction = 0 then none else some ⟨fraction, -1074, false⟩
  else some ⟨Nat.pow 2 52 + fraction, exponent - 1075, fraction = 0 ∧ 1 < exponent⟩

/-- A quarter of the unit of `b` over the step `10 ^ t`, as a fraction. -/
def quarter (b : Binary) (t : Int) : Nat × Nat :=
  (Nat.pow 2 (b.q - 2).toNat * Nat.pow 10 (-t).toNat, Nat.pow 2 (2 - b.q).toNat * Nat.pow 10 t.toNat)

/-- The multiple `c · 10 ^ t` rounds to `b`. -/
def accepts (b : Binary) (t : Int) (c : Nat) : Bool :=
  let (n, d) := b.quarter t
  let low := (4 * b.m - if b.narrow then 1 else 2) * n
  let high := (4 * b.m + 2) * n
  if b.m % 2 = 0 then low ≤ c * d ∧ c * d ≤ high else low < c * d ∧ c * d < high

/-- The least `k` from `j` on with `num / den < 10 ^ k`, of the next `fuel` numbers. -/
def magnitude (num den : Nat) : Nat → Int → Int
  | 0, j => j
  | fuel + 1, j =>
    if num * Nat.pow 10 (-j).toNat < den * Nat.pow 10 j.toNat then j else magnitude num den fuel (j + 1)

/-- The `point` for which the number is at least `0.1 · 10 ^ point` and less than `10 ^ point`. The search starts a
little below, from the binary exponent and `log₁₀ 2 ≈ 0.30103`. -/
def point (b : Binary) : Int :=
  magnitude (b.m * Nat.pow 2 b.q.toNat) (Nat.pow 2 (-b.q).toNat) 8 ((Nat.log2 b.m + b.q) * 30103 / 100000 - 1)

/-- The neighbour below the number on the grid of step `10 ^ t`. -/
def below (b : Binary) (t : Int) : Nat := 4 * b.m * (b.quarter t).1 / (b.quarter t).2

/-- The neighbour of the number on the grid of step `10 ^ t` that rounds to it, the nearer of two. -/
def onGrid? (b : Binary) (t : Int) : Option Nat :=
  let (n, d) := b.quarter t
  let x := 4 * b.m * n
  let c := b.below t
  match b.accepts t c, b.accepts t (c + 1) with
  | false, false => none
  | true, false => some c
  | false, true => some (c + 1)
  | true, true =>
    let down := x - c * d
    let up := (c + 1) * d - x
    if down < up then some c
    else if up < down then some (c + 1)
    else some (if c % 2 = 0 then c else c + 1)

/-- Digits without the zeros at their end. -/
def strip (s : List Char) : List Char := (s.reverse.dropWhile (· == '0')).reverse

/-- The number `c · 10 ^ t`. -/
def multiple (c : Nat) (t : Int) : Decimals :=
  let ds := Nat.toDigits 10 c
  ⟨strip ds, t + ds.length⟩

/-- The hit on the first grid of at least `n` digits that has one; without a hit on `fuel` grids, the neighbour below on
the next. Seventeen digits always suffice for a hit. -/
def shortestFrom (b : Binary) (k : Int) : Nat → Nat → Decimals
  | 0, n => multiple (b.below (k - n)) (k - n)
  | fuel + 1, n => match b.onGrid? (k - n) with
    | none => shortestFrom b k fuel (n + 1)
    | some c => multiple c (k - n)

/-- The fewest digits that read back, and of these the nearest. -/
def shortest (b : Binary) : Decimals := shortestFrom b b.point 17 1

end Binary

end PaymentDesk.Text
