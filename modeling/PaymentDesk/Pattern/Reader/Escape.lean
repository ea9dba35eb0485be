import PaymentDesk.Pattern.Tree
import PaymentDesk.Text.Blank
import PaymentDesk.Text.Digits

/-!
# Reading escapes in patterns

A backslash gives the next characters another meaning: `readEscape` reads a special character, the code of a character,
a class, or something that is asked of a place. In expanded patterns blanks and comments stand for nothing almost
anywhere (`skip`, `gather`).
-/

namespace PaymentDesk.Pattern

open Text

/-- The stretch between two places, each told by the text that is left behind it. -/
def stretch (start stop : List Char) : Span := ⟨start.length, stop.length⟩

/-- A complaint about a stretch. -/
def complain {α : Type} (cause : Cause) (start stop : List Char) : Except Complaint α :=
  .error { cause, span := stretch start stop }

/-! ## Blanks and comments -/

/-- A text without the blanks and comments at its front; `inside` tells that it starts inside a comment. -/
def skipBlanks (inside : Bool) : List Char → List Char
  | [] => []
  | c :: r =>
    if inside then skipBlanks (c != '\n') r
    else if isBlank c then skipBlanks false r
    else if c = '#' then skipBlanks true r
    else c :: r

/-- A text without what stands for nothing at its front. -/
def skip (expanded : Bool) (s : List Char) : List Char := if expanded then skipBlanks false s else s

/-- The characters at the front of a text that satisfy `p`, and the text that is left. -/
def gatherFrom (expanded inside : Bool) (p : Char → Bool) : List Char → List Char × List Char
  | [] => ([], [])
  | c :: r =>
    if inside then gatherFrom expanded (c != '\n') p r
    else if expanded && isBlank c then gatherFrom expanded false p r
    else if expanded && c == '#' then gatherFrom expanded true p r
    else if p c then
      let (taken, rest) := gatherFrom expanded false p r
      (c :: taken, rest)
    else ([], c :: r)

/-- The characters at the front of a text that satisfy `p`, and the text that is left. -/
def gather (expanded : Bool) (p : Char → Bool) (s : List Char) : List Char × List Char :=
  gatherFrom expanded false p s

/-! ## Codes of characters -/

/-- A digit of a hexadecimal number. -/
def isHexDigit (c : Char) : Bool := c.isDigit || ('a' ≤ c && c ≤ 'f') || ('A' ≤ c && c ≤ 'F')

/-- The character with a code. -/
def charOf? (digits : List Char) : Option Char :=
  let n := Hexadecimal.value digits
  if n < 0xD800 ∨ (0xDFFF < n ∧ n ≤ 0x10FFFF) then some (Char.ofNat n) else none

/-- Reads a given number of digits. -/
def readDigits (expanded : Bool) : Nat → List Char → Except Complaint (List Char × List Char)
  | 0, s => .ok ([], s)
  | n + 1, s =>
    match s with
    | [] => complain .escapeEnd [] []
    | c :: r =>
      if isHexDigit c then do
        let (digits, rest) ← readDigits expanded n (skip expanded r)
        .ok (c :: digits, rest)
      else complain .hexDigit (c :: r) r

/-- Reads a code with a given number of digits. -/
def readFixedCode (expanded : Bool) (start : List Char) (length : Nat) (s : List Char) :
    Except Complaint (Literal × List Char) := do
  let (digits, rest) ← readDigits expanded length s
  match charOf? digits with
  | some char => .ok ({ char, span := stretch start rest, isByte := length == 2 }, rest)
  | none => complain .hexNoCharacter s rest

/-- Reads a code in braces, from the opening one on. -/
def readBracedCode (expanded : Bool) (start s : List Char) : Except Complaint (Literal × List Char) := do
  let (digits, after) := gather expanded isHexDigit (skip expanded (s.drop 1))
  match after with
  | [] => complain .escapeEnd s []
  | c :: r =>
    if c ≠ '\x7d' then complain .hexDigit after r
    else
      let rest := skip expanded r
      if digits.isEmpty then complain .hexEmpty s rest
      else match charOf? digits with
        | some char => .ok ({ char, span := stretch start rest }, rest)
        | none => complain .hexNoCharacter (s.drop 1) after

/-- Reads the code of a character after `x`, `u` or `U`; `start` is the text from the backslash on. -/
def readCode (expanded : Bool) (start : List Char) (length : Nat) (s : List Char) :
    Except Complaint (Literal × List Char) :=
  match skip expanded s with
  | [] => complain .escapeEnd [] []
  | '\x7b' :: r => readBracedCode expanded start ('\x7b' :: r)
  | s => readFixedCode expanded start length s

/-! ## Properties and boundaries -/

/-- Reads the name of a property after `p` or `P`. -/
def readProperty (expanded : Bool) (start : List Char) (negated : Bool) (s : List Char) :
    Except Complaint (SetTree × List Char) :=
  match skip expanded s with
  | [] => complain .escapeEnd [] []
  | '\x7b' :: r =>
    match gather expanded (· != '\x7d') (skip expanded r) with
    | (_, []) => complain .escapeEnd [] []
    | (name, _ :: rest) => .ok (.property (stretch start rest) name false negated, rest)
  | c :: r =>
    if c = '\\' then complain .propertyInvalid (c :: r) r
    else
      let rest := skip expanded r
      .ok (.property (stretch start rest) [c] true negated, rest)

/-- A character in the name of a special boundary. -/
def isBoundaryChar (c : Char) : Bool := c.isAlpha || c == '-'

/-- The boundary with a name. -/
def boundary? (name : List Char) : Option Anchor :=
  match String.ofList name with
  | "start" => some .wordStart
  | "end" => some .wordEnd
  | "start-half" => some .noWordBefore
  | "end-half" => some .noWordAfter
  | _ => none

/-- Reads what may follow `\b`: the name of a special boundary in braces. Braces with no letter or hyphen at their start
do not belong to the boundary. -/
def readBoundary (expanded : Bool) (start s : List Char) : Except Complaint (Atom × List Char) :=
  let plain : Except Complaint (Atom × List Char) := .ok (.anchor (stretch start s) .wordBoundary, s)
  match s with
  | '\x7b' :: r =>
    match skip expanded r with
    | [] => complain .boundaryEnd start []
    | c :: inner =>
      if ! isBoundaryChar c then plain
      else match gather expanded isBoundaryChar (c :: inner) with
        | (name, '\x7d' :: rest) =>
          match boundary? name with
          | some a => .ok (.anchor (stretch start rest) a, rest)
          | none => complain .boundaryUnknown (c :: inner) ('\x7d' :: rest)
        | (_, after) => complain .boundaryUnclosed s after
  | _ => plain

/-! ## Escapes -/

/-- A character of ASCII that stands for itself after a backslash. -/
def isEscapable (c : Char) : Bool := c.toNat < 0x80 && ! c.isAlphanum && c != '<' && c != '>'

/-- The control character that a letter stands for. -/
def control? (c : Char) : Option Char :=
  match c with
  | 'a' => some '\x07'
  | 'f' => some '\x0c'
  | 't' => some '\t'
  | 'n' => some '\n'
  | 'r' => some '\r'
  | 'v' => some '\x0b'
  | _ => none

/-- The class that a letter names, and whether it is negated. -/
def shortClass? (c : Char) : Option (ShortClass × Bool) :=
  match c with
  | 'd' => some (.digits, false)
  | 'D' => some (.digits, true)
  | 's' => some (.spaces, false)
  | 'S' => some (.spaces, true)
  | 'w' => some (.words, false)
  | 'W' => some (.words, true)
  | _ => none

/-- What a character asks of a place. -/
def anchor? (c : Char) : Option Anchor :=
  match c with
  | 'A' => some .textStart
  | 'z' => some .textEnd
  | 'B' => some .noWordBoundary
  | '<' => some .wordStart
  | '>' => some .wordEnd
  | _ => none

/-- The number of digits of a code after a letter. -/
def codeLength? (c : Char) : Option Nat :=
  match c with
  | 'x' => some 2
  | 'u' => some 4
  | 'U' => some 8
  | _ => none

/-- Reads an escape, from the backslash on. -/
def readEscape (expanded : Bool) (s : List Char) : Except Complaint (Atom × List Char) :=
  match s.drop 1 with
  | [] => complain .escapeEnd s []
  | c :: r =>
    let span := stretch s r
    if c.isDigit then complain .backreference s r
    else if isEscapable c then .ok (.literal { char := c, span }, r)
    else if c = 'p' ∨ c = 'P' then (readProperty expanded s (c = 'P') r).map fun p => (.set p.1, p.2)
    else if c = 'b' then readBoundary expanded s r
    else match codeLength? c, shortClass? c, control? c, anchor? c with
      | some n, _, _, _ => (readCode expanded s n r).map fun p => (.literal p.1, p.2)
      | _, some (name, negated), _, _ => .ok (.set (.short span name negated), r)
      | _, _, some char, _ => .ok (.literal { char, span }, r)
      | _, _, _, some a => .ok (.anchor span a, r)
      | _, _, _, _ => complain .escapeUnknown s r

end PaymentDesk.Pattern
