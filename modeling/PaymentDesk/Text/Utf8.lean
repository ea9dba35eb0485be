/-!
# UTF-8

`encode` writes a text as bytes. `scan` reads bytes from left to right: each well-formed sequence gives its character,
and each longest beginning of a sequence that is then broken off gives `none`. `decode?` accepts the byte strings
without such a place, and `decodeLossy` puts U+FFFD at each.
-/

namespace PaymentDesk.Text.Utf8

/-- The bytes of one character. -/
def encodeChar (c : Char) : List UInt8 :=
  let n := c.toNat
  if n < 0x80 then [UInt8.ofNat n]
  else if n < 0x800 then [UInt8.ofNat (0xC0 + n / 64), UInt8.ofNat (0x80 + n % 64)]
  else if n < 0x10000 then
    [UInt8.ofNat (0xE0 + n / 4096), UInt8.ofNat (0x80 + n / 64 % 64), UInt8.ofNat (0x80 + n % 64)]
  else
    [UInt8.ofNat (0xF0 + n / 262144), UInt8.ofNat (0x80 + n / 4096 % 64), UInt8.ofNat (0x80 + n / 64 % 64),
      UInt8.ofNat (0x80 + n % 64)]

/-- The bytes of a text. -/
def encode (s : List Char) : List UInt8 := s.flatMap encodeChar

/-- The number of bytes of a text. -/
def byteLength (s : List Char) : Nat := (encode s).length

/-! ## Reading -/

/-- The next byte, when it lies between two bounds, as the low six bits it carries, and the bytes after it. -/
def trailing (lo hi : Nat) : List UInt8 → Option (Nat × List UInt8)
  | [] => none
  | b :: r => if lo ≤ b.toNat ∧ b.toNat ≤ hi then some (b.toNat % 64, r) else none

theorem length_of_trailing {lo hi x : Nat} {s r : List UInt8} (h : trailing lo hi s = some (x, r)) :
    r.length < s.length := by
  cases s with
  | nil => simp [trailing] at h
  | cons b t =>
    simp only [trailing] at h
    split at h
    · simp only [Option.some.injEq, Prod.mk.injEq] at h
      simp [← h.2]
    · simp at h

/-- Goes on with a character begun by the bits `n`, of which `k` plain trailing bytes are still owed. -/
def plain : Nat → Nat → List UInt8 → Option Char × List UInt8
  | 0, n, s => (some (Char.ofNat n), s)
  | k + 1, n, s => match trailing 0x80 0xBF s with
    | none => (none, s)
    | some (x, r) => plain k (n * 64 + x) r

/-- The character after a first byte, or `none` where the sequence breaks off, and the bytes left. The second byte of
the longer sequences has bounds of its own, which exclude overlong forms, surrogates and values past U+10FFFF. -/
def character (b : UInt8) (s : List UInt8) : Option Char × List UInt8 :=
  let n := b.toNat
  if n < 0x80 then (some (Char.ofNat n), s)
  else if 0xC2 ≤ n ∧ n ≤ 0xDF then plain 1 (n % 32) s
  else if 0xE0 ≤ n ∧ n ≤ 0xEF then
    match trailing (if n = 0xE0 then 0xA0 else 0x80) (if n = 0xED then 0x9F else 0xBF) s with
    | none => (none, s)
    | some (x, r) => plain 1 (n % 16 * 64 + x) r
  else if 0xF0 ≤ n ∧ n ≤ 0xF4 then
    match trailing (if n = 0xF0 then 0x90 else 0x80) (if n = 0xF4 then 0x8F else 0xBF) s with
    | none => (none, s)
    | some (x, r) => plain 2 (n % 8 * 64 + x) r
  else (none, s)

theorem length_plain_le (k n : Nat) (s : List UInt8) : (plain k n s).2.length ≤ s.length := by
  induction k generalizing n s with
  | zero => simp [plain]
  | succ k ih =>
    simp only [plain]
    split
    · simp
    · next x r h => exact Nat.le_trans (ih _ _) (Nat.le_of_lt (length_of_trailing h))

theorem length_character_le (b : UInt8) (s : List UInt8) : (character b s).2.length ≤ s.length := by
  simp only [character]
  split
  · simp
  · split
    · exact length_plain_le _ _ _
    · split
      · split
        · simp
        · next h => exact Nat.le_trans (length_plain_le _ _ _) (Nat.le_of_lt (length_of_trailing h))
      · split
        · split
          · simp
          · next h => exact Nat.le_trans (length_plain_le _ _ _) (Nat.le_of_lt (length_of_trailing h))
        · simp

/-- The characters of a byte string, with `none` at each place where it is not well formed. -/
def scan : List UInt8 → List (Option Char)
  | [] => []
  | b :: s => (character b s).1 :: scan (character b s).2
termination_by s => s.length
decreasing_by simpa using Nat.lt_succ_of_le (length_character_le b s)

/-- The text that the bytes spell, if they are well formed. -/
def decode? (s : List UInt8) : Option (List Char) := (scan s).mapM id

/-- The text that the bytes spell, with U+FFFD where they are not well formed. -/
def decodeLossy (s : List UInt8) : List Char := (scan s).map (·.getD '\uFFFD')

end PaymentDesk.Text.Utf8
