import PaymentDesk.Json.Fault
import PaymentDesk.Json.Value
import PaymentDesk.Text.Digits

/-!
# Reading JSON

`parse` reads a whole text as one document. At most 127 arrays and objects may be open at once, of equal keys the last
one counts, and an integer that fits into 64 bits stays an integer. Any other number is the binary64 value that
`scale` finds from the decimal digits that fit into 64 bits and from the exponent.

Each reader takes the text that is left and returns what it read with the text after it, or stops.
-/

namespace PaymentDesk.Json

open PaymentDesk.Text

/-- The blanks of the format. -/
def isSpace (c : Char) : Bool := c == ' ' || c == '\t' || c == '\n' || c == '\r'

/-- The text after leading blanks. -/
def skip (s : List Char) : List Char := s.dropWhile isSpace

/-- Reads the rest of a fixed word. -/
def word : List Char → List Char → Except Stop (List Char)
  | [], s => .ok s
  | _ :: _, [] => .error (.before .endInValue [])
  | c :: cs, d :: r => if c = d then word cs r else .error (.before .expectedIdent (d :: r))

/-! ## Texts -/

/-- The number that four hexadecimal digits spell. -/
def fourDigits? : List Char → Option (Nat × List Char)
  | a :: b :: c :: d :: r =>
    match Hexadecimal.digit? a, Hexadecimal.digit? b, Hexadecimal.digit? c, Hexadecimal.digit? d with
    | some a, some b, some c, some d => some (((a * 16 + b) * 16 + c) * 16 + d, r)
    | _, _, _, _ => none
  | _ => none

/-- Reads four hexadecimal digits. Four bytes are taken at once, whatever they are. -/
def unit (s : List Char) : Except Stop (Nat × List Char) :=
  match fourDigits? s with
  | some (n, r) => .ok (n, r)
  | none => .error (if 4 ≤ Utf8.byteLength s then ⟨.invalidEscape, s, 4⟩ else .before .endInString [])

/-- The code point of a pair of surrogates. -/
def fromSurrogates (high low : Nat) : Char := Char.ofNat ((high - 0xD800) * 0x400 + (low - 0xDC00) + 0x10000)

/-- Reads the second half of a pair of surrogates. -/
def lowSurrogate (high : Nat) : List Char → Except Stop (Char × List Char)
  | '\\' :: 'u' :: r => do
    let (low, r') ← unit r
    if 0xDC00 ≤ low ∧ low ≤ 0xDFFF then .ok (fromSurrogates high low, r')
    else .error ⟨.loneSurrogate, r', 0⟩
  | '\\' :: r => .error (.before (if r.isEmpty then .endInString else .unexpectedEndOfEscape) r)
  | r => .error (.before (if r.isEmpty then .endInString else .unexpectedEndOfEscape) r)

/-- Reads what follows a backslash. -/
def escaped : List Char → Except Stop (Char × List Char)
  | [] => .error (.before .endInString [])
  | 'u' :: r => do
    let (n, r') ← unit r
    if 0xDC00 ≤ n ∧ n ≤ 0xDFFF then .error ⟨.loneSurrogate, r', 0⟩
    else if 0xD800 ≤ n ∧ n ≤ 0xDBFF then lowSurrogate n r'
    else .ok (Char.ofNat n, r')
  | c :: r =>
    if c = '"' ∨ c = '\\' ∨ c = '/' then .ok (c, r)
    else if c = 'b' then .ok ('\x08', r)
    else if c = 'f' then .ok ('\x0c', r)
    else if c = 'n' then .ok ('\n', r)
    else if c = 'r' then .ok ('\r', r)
    else if c = 't' then .ok ('\t', r)
    else .error (.before .invalidEscape (c :: r))

theorem length_of_fourDigits? {s r : List Char} {n : Nat} (h : fourDigits? s = some (n, r)) : r.length < s.length := by
  match s with
  | a :: b :: c :: d :: t =>
    simp only [fourDigits?] at h
    split at h
    · simp only [Option.some.injEq, Prod.mk.injEq] at h
      simp [← h.2]
      omega
    · simp at h
  | [] | [_] | [_, _] | [_, _, _] => simp [fourDigits?] at h

theorem length_of_unit {s r : List Char} {n : Nat} (h : unit s = .ok (n, r)) : r.length < s.length := by
  simp only [unit] at h
  split at h
  · next h' =>
    simp only [Except.ok.injEq, Prod.mk.injEq] at h
    exact h.2 ▸ length_of_fourDigits? h'
  · simp at h

theorem length_of_lowSurrogate {high : Nat} {s r : List Char} {c : Char} (h : lowSurrogate high s = .ok (c, r)) :
    r.length < s.length := by
  unfold lowSurrogate at h
  split at h
  · next t =>
    cases hu : unit t with
    | error e => simp [hu, bind, Except.bind] at h
    | ok p =>
      simp only [hu, bind, Except.bind] at h
      split at h
      · simp only [Except.ok.injEq, Prod.mk.injEq] at h
        have := length_of_unit (n := p.1) (r := p.2) hu
        simp only [List.length_cons, ← h.2]
        omega
      · simp at h
  · simp at h
  · simp at h

theorem length_of_escaped {s r : List Char} {c : Char} (h : escaped s = .ok (c, r)) : r.length < s.length := by
  unfold escaped at h
  split at h
  · simp at h
  · next t =>
    cases hu : unit t with
    | error e => simp [hu, bind, Except.bind] at h
    | ok p =>
      have hp := length_of_unit (n := p.1) (r := p.2) hu
      simp only [hu, bind, Except.bind] at h
      split at h
      · simp at h
      · split at h
        · have := length_of_lowSurrogate h
          simp only [List.length_cons]
          omega
        · simp only [Except.ok.injEq, Prod.mk.injEq] at h
          simp only [List.length_cons, ← h.2]
          omega
  · next d t _ =>
    have ok_inj : ∀ {x : Char}, (Except.ok (x, t) : Except Stop (Char × List Char)) = .ok (c, r) →
        r.length < (d :: t).length := by
      intro x hx
      simp only [Except.ok.injEq, Prod.mk.injEq] at hx
      simp [← hx.2]
    split at h
    · exact ok_inj h
    · split at h
      · exact ok_inj h
      · split at h
        · exact ok_inj h
        · split at h
          · exact ok_inj h
          · split at h
            · exact ok_inj h
            · split at h
              · exact ok_inj h
              · simp at h

/-- Reads a text after its opening quote, `acc` being its characters so far in reverse. -/
def stringFrom (acc : List Char) : List Char → Except Stop (List Char × List Char)
  | [] => .error (.before .endInString [])
  | c :: r =>
    if c = '"' then .ok (acc.reverse, r)
    else if c = '\\' then
      match _h : escaped r with
      | .error e => .error e
      | .ok (d, r') => stringFrom (d :: acc) r'
    else if c.toNat < 0x20 then .error (.before .controlCharacter (c :: r))
    else stringFrom (c :: acc) r
termination_by s => s.length
decreasing_by
  · have := length_of_escaped _h
    simp only [List.length_cons]
    omega
  · simp

/-- Reads a text after its opening quote. -/
def string (s : List Char) : Except Stop (List Char × List Char) := stringFrom [] s

/-! ## Numbers -/

/-- A decimal digit comes next. -/
def startsDigit : List Char → Bool
  | [] => false
  | c :: _ => (Decimal.digit? c).isSome

/-- The text after leading decimal digits. -/
def skipDigits (s : List Char) : List Char := s.dropWhile fun c => (Decimal.digit? c).isSome

/-- Takes in decimal digits while the number stays below `bound`; also returns how many were taken. -/
def accumulate (bound : Nat) (acc count : Nat) : List Char → Nat × Nat × List Char
  | [] => (acc, count, [])
  | c :: r => match Decimal.digit? c with
    | none => (acc, count, c :: r)
    | some d =>
      if acc * 10 + d < bound then accumulate bound (acc * 10 + d) (count + 1) r else (acc, count, c :: r)

/-- The binary64 value nearest to a power of ten. -/
def powerOfTen (k : Nat) : Float := Float.ofScientific 1 false k

/-- Divides by a power of ten, in steps of at most `10 ^ 308`. -/
def lower (x : Float) (k : Nat) : Float :=
  if k ≤ 308 then x / powerOfTen k
  else if x == 0 then x
  else lower (x / powerOfTen 308) (k - 308)
termination_by k

/-- Multiplies by a power of ten; `none` when the result is too large. -/
def scale (x : Float) (e : Int) : Option Float :=
  if e < 0 then some (lower x e.natAbs)
  else if e ≤ 308 then
    let y := x * powerOfTen e.natAbs
    if y.isInf then none else some y
  else if x == 0 then some x
  else none

/-- A binary64 number with its sign. -/
def signed (negative : Bool) (x : Float) : Number := .real (if negative then -x else x)

/-- The number `significand · 10 ^ e`, read up to `rest`. -/
def real (negative : Bool) (significand : Nat) (e : Int) (rest : List Char) : Except Stop (Number × List Char) :=
  match scale significand.toUInt64.toFloat e with
  | none => .error ⟨.numberOutOfRange, rest, 0⟩
  | some x => .ok (signed negative x, rest)

/-- Reads an exponent after its mark `e`. One of more than 31 bits makes the number zero or too large. -/
def exponent (negative : Bool) (significand : Nat) (e : Int) (s : List Char) : Except Stop (Number × List Char) :=
  let (upward, r) := match s with
    | '+' :: r => (true, r)
    | '-' :: r => (false, r)
    | _ => (true, s)
  if r.isEmpty then .error (.before .endInValue [])
  else if ! startsDigit r then .error (.before .invalidNumber r)
  else
    let (k, _, r') := accumulate (Nat.pow 2 31) 0 0 r
    if ! startsDigit r' then real negative significand (if upward then e + k else e - k) r'
    else if significand ≠ 0 ∧ upward then .error ⟨.numberOutOfRange, r'.drop 1, 0⟩
    else .ok (signed negative 0, skipDigits r')

/-- Ends a number that has a fraction or too many digits, with an exponent if one follows. -/
def scaled (negative : Bool) (significand : Nat) (e : Int) : List Char → Except Stop (Number × List Char)
  | 'e' :: r => exponent negative significand e r
  | 'E' :: r => exponent negative significand e r
  | r => real negative significand e r

/-- Reads a fraction after its point. -/
def fraction (negative : Bool) (significand : Nat) (e : Int) (s : List Char) : Except Stop (Number × List Char) :=
  let (m, n, r) := accumulate (Nat.pow 2 64) significand 0 s
  if startsDigit r then scaled negative m (e - n) (skipDigits r)
  else if n = 0 then .error (.before (if r.isEmpty then .endInValue else .invalidNumber) r)
  else scaled negative m (e - n) r

/-- An integer, as a binary64 number where 64 bits do not hold it. -/
def integer (negative : Bool) (n : Nat) : Number :=
  if ! negative then .int n
  else if 1 ≤ n ∧ n ≤ Nat.pow 2 63 then .int (-n)
  else signed true n.toUInt64.toFloat

/-- Ends a number after the digits of an integer that fits into 64 bits. -/
def afterInteger (negative : Bool) (n : Nat) : List Char → Except Stop (Number × List Char)
  | '.' :: r => fraction negative n 0 r
  | 'e' :: r => exponent negative n 0 r
  | 'E' :: r => exponent negative n 0 r
  | r => .ok (integer negative n, r)

/-- Ends a number after the digits of an integer of which the last `dropped` did not fit. -/
def afterLongInteger (negative : Bool) (n dropped : Nat) : List Char → Except Stop (Number × List Char)
  | '.' :: r => fraction negative n dropped r
  | r => scaled negative n dropped r

/-- Reads a number after its sign. -/
def number (negative : Bool) : List Char → Except Stop (Number × List Char)
  | [] => .error (.before .endInValue [])
  | '0' :: r => if startsDigit r then .error (.before .invalidNumber r) else afterInteger negative 0 r
  | s =>
    if ! startsDigit s then .error (.before .invalidNumber s)
    else
      let (n, _, r) := accumulate (Nat.pow 2 64) 0 0 s
      if startsDigit r then
        let r' := skipDigits r
        afterLongInteger negative n (r.length - r'.length) r'
      else afterInteger negative n r

/-! ## Values -/

mutual

/-- Reads a value inside which `depth` more arrays and objects may be opened. The first argument bounds the number of
steps; every step takes a character, so that more steps than characters suffice. -/
def value : Nat → Nat → List Char → Except Stop (Value × List Char)
  | 0, _, s => .error (.before .expectedValue s)
  | steps + 1, depth, s =>
    match skip s with
    | [] => .error (.before .endInValue [])
    | 'n' :: r => do
      let r' ← word "ull".toList r
      .ok (.null, r')
    | 't' :: r => do
      let r' ← word "rue".toList r
      .ok (.bool true, r')
    | 'f' :: r => do
      let r' ← word "alse".toList r
      .ok (.bool false, r')
    | '"' :: r => do
      let (t, r') ← string r
      .ok (.string t, r')
    | '-' :: r => do
      let (n, r') ← number true r
      .ok (.number n, r')
    | '[' :: r =>
      match depth with
      | 0 => .error (.before .recursionLimit ('[' :: r))
      | depth + 1 => do
        let (vs, r') ← firstItem steps depth (skip r)
        .ok (.array vs, r')
    | '\x7b' :: r =>
      match depth with
      | 0 => .error (.before .recursionLimit ('\x7b' :: r))
      | depth + 1 => do
        let (es, r') ← firstEntry steps depth (skip r)
        .ok (.object (collect es), r')
    | r =>
      if startsDigit r then do
        let (n, r') ← number false r
        .ok (.number n, r')
      else .error (.before .expectedValue r)

/-- Reads the items of an array after its opening bracket. -/
def firstItem : Nat → Nat → List Char → Except Stop (List Value × List Char)
  | 0, _, s => .error (.before .expectedValue s)
  | _ + 1, _, [] => .error (.before .endInList [])
  | _ + 1, _, ']' :: r => .ok ([], r)
  | steps + 1, depth, s => do
    let (v, r) ← value steps depth s
    let (vs, r') ← moreItems steps depth (skip r)
    .ok (v :: vs, r')

/-- Reads the items of an array after one of them. -/
def moreItems : Nat → Nat → List Char → Except Stop (List Value × List Char)
  | 0, _, s => .error (.before .expectedValue s)
  | _ + 1, _, [] => .error (.before .endInList [])
  | _ + 1, _, ']' :: r => .ok ([], r)
  | steps + 1, depth, ',' :: r =>
    match skip r with
    | [] => .error (.before .endInValue [])
    | ']' :: r' => .error (.before .trailingComma (']' :: r'))
    | r' => do
      let (v, t) ← value steps depth r'
      let (vs, t') ← moreItems steps depth (skip t)
      .ok (v :: vs, t')
  | _ + 1, _, s => .error (.before .expectedListCommaOrEnd s)

/-- Reads the entries of an object after its opening brace. -/
def firstEntry : Nat → Nat → List Char → Except Stop (List (List Char × Value) × List Char)
  | 0, _, s => .error (.before .expectedValue s)
  | _ + 1, _, [] => .error (.before .endInObject [])
  | _ + 1, _, '\x7d' :: r => .ok ([], r)
  | steps + 1, depth, '"' :: r => do
    let (e, r') ← entry steps depth r
    let (es, t) ← moreEntries steps depth (skip r')
    .ok (e :: es, t)
  | _ + 1, _, s => .error (.before .keyMustBeString s)

/-- Reads the entries of an object after one of them. -/
def moreEntries : Nat → Nat → List Char → Except Stop (List (List Char × Value) × List Char)
  | 0, _, s => .error (.before .expectedValue s)
  | _ + 1, _, [] => .error (.before .endInObject [])
  | _ + 1, _, '\x7d' :: r => .ok ([], r)
  | steps + 1, depth, ',' :: r =>
    match skip r with
    | [] => .error (.before .endInValue [])
    | '"' :: r' => do
      let (e, t) ← entry steps depth r'
      let (es, t') ← moreEntries steps depth (skip t)
      .ok (e :: es, t')
    | '\x7d' :: r' => .error (.before .trailingComma ('\x7d' :: r'))
    | r' => .error (.before .keyMustBeString r')
  | _ + 1, _, s => .error (.before .expectedObjectCommaOrEnd s)

/-- Reads an entry after the opening quote of its key. -/
def entry : Nat → Nat → List Char → Except Stop ((List Char × Value) × List Char)
  | 0, _, s => .error (.before .expectedValue s)
  | steps + 1, depth, s => do
    let (k, r) ← string s
    match skip r with
    | [] => .error (.before .endInObject [])
    | ':' :: r' => do
      let (v, t) ← value steps depth r'
      .ok ((k, v), t)
    | r' => .error (.before .expectedColon r')

end

/-- Reads a value that only blanks may follow. -/
def document (s : List Char) : Except Stop Value := do
  let (v, r) ← value (2 * s.length + 1) 127 s
  match skip r with
  | [] => .ok v
  | r' => .error (.before .trailingCharacters r')

/-- The document that a text spells. -/
def parse (s : List Char) : Except Fault Value :=
  (document s).mapError (·.locate s)

end PaymentDesk.Json
