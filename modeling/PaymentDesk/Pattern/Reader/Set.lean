import PaymentDesk.Pattern.Reader.Escape

/-!
# Reading sets in patterns

`readSet` reads a set in brackets: characters, ranges, classes, and sets in brackets of their own, which operations may
join. What is read of the sets around the innermost one is kept in `SetLevel`s.
-/

namespace PaymentDesk.Pattern

open Text

/-- The class with a name. -/
def namedClass? (name : List Char) : Option NamedClass :=
  match String.ofList name with
  | "alnum" => some .alnum
  | "alpha" => some .alpha
  | "ascii" => some .ascii
  | "blank" => some .blank
  | "cntrl" => some .cntrl
  | "digit" => some .digit
  | "graph" => some .graph
  | "lower" => some .lower
  | "print" => some .print
  | "punct" => some .punct
  | "space" => some .space
  | "upper" => some .upper
  | "word" => some .word
  | "xdigit" => some .xdigit
  | _ => none

/-- Reads a class such as `[:alpha:]`, if there is one at the front of a text. -/
def readNamedClass? (s : List Char) : Option (SetTree × List Char) :=
  match s with
  | '[' :: ':' :: r =>
    let (negated, r) := match r with
      | '^' :: r => (true, r)
      | r => (false, r)
    match namedClass? (r.takeWhile (· != ':')), r.dropWhile (· != ':') with
    | some name, ':' :: ']' :: rest => some (.named (stretch s rest) name negated, rest)
    | _, _ => none
  | _ => none

/-- Reads the hyphens at the front of a set, which stand for themselves. -/
def readHyphens (expanded inside : Bool) : List Char → List SetTree × List Char
  | [] => ([], [])
  | c :: r =>
    if inside then readHyphens expanded (c != '\n') r
    else if c = '-' then
      let (items, rest) := readHyphens expanded false r
      (.literal { char := '-', span := stretch (c :: r) r } :: items, rest)
    else if expanded && isBlank c then readHyphens expanded false r
    else if expanded && c == '#' then readHyphens expanded true r
    else ([], c :: r)

/-- An operation that has been begun, with its first operand. -/
abbrev Pending := Option (SetOperation × SetTree)

/-- A set that has been begun, and what is known of the set around it. -/
structure SetLevel where
  /-- The opening bracket with what belongs to it. -/
  opening : Span
  negated : Bool
  /-- The items of the set around it, the last one first. -/
  items : List SetTree
  /-- The operation that has been begun in the set around it. -/
  pending : Pending

/-- Reads the beginning of a set: the bracket, a sign of negation, and first characters that stand for themselves. -/
def openSet (expanded : Bool) (items : List SetTree) (pending : Pending) (s : List Char) :
    Except Complaint ((SetLevel × List SetTree) × List Char) :=
  let after := skip expanded (s.drop 1)
  let (negated, after) := match after with
    | '^' :: r => (true, skip expanded r)
    | r => (false, r)
  match after with
  | [] => complain .setUnclosed s []
  | _ :: _ =>
    let (hyphens, after) := readHyphens expanded false after
    match after with
    | [] => complain .setUnclosed s s
    | c :: r =>
      let bracket := hyphens.isEmpty && c == ']'
      let rest := if bracket then skip expanded r else after
      let first := if bracket then [.literal { char := ']', span := stretch after r }] else hyphens.reverse
      if rest.isEmpty then complain .setUnclosed s []
      else .ok (({ opening := stretch s rest, negated, items, pending }, first), rest)

/-- Reads a character or an escape in a set. -/
def readSetAtom (expanded : Bool) (s : List Char) : Except Complaint (Atom × List Char) :=
  match s with
  | [] => complain .setUnclosed [] []
  | '\\' :: _ => readEscape expanded s
  | c :: r => .ok (.literal { char := c, span := stretch s r }, r)

/-- Something that may stand in a set. -/
def Atom.toSet : Atom → Except Complaint SetTree
  | .literal l => .ok (.literal l)
  | .set s => .ok s
  | .anchor span _ => .error { cause := .setEscape, span }

/-- Something that may stand at the end of a range. -/
def Atom.toRangeEnd : Atom → Except Complaint Literal
  | .literal l => .ok l
  | .set s => .error { cause := .setRangeEnd, span := s.span }
  | .anchor span _ => .error { cause := .setRangeEnd, span }

/-- The character after a hyphen that tells whether the hyphen makes a range. -/
def afterHyphen (expanded : Bool) (s : List Char) : Option Char :=
  if expanded then
    match s.dropWhile isBlank with
    | '#' :: r => (r.dropWhile isBlank).head?
    | r => r.head?
  else s.head?

/-- Reads a character, a class or a range; `opening` is the innermost bracket. -/
def readSetItem (expanded : Bool) (opening : Span) (s : List Char) : Except Complaint (SetTree × List Char) := do
  let unclosed : Except Complaint (SetTree × List Char) := .error { cause := .setUnclosed, span := opening }
  let (first, rest) ← readSetAtom expanded s
  match skip expanded rest with
  | [] => unclosed
  | '-' :: r =>
    if afterHyphen expanded r == some ']' || afterHyphen expanded r == some '-' then
      .ok (← first.toSet, '-' :: r)
    else match skip expanded r with
      | [] => unclosed
      | r =>
        let (last, rest) ← readSetAtom expanded r
        let a ← first.toRangeEnd
        let b ← last.toRangeEnd
        if a.char ≤ b.char then .ok (.range a b, rest)
        else .error { cause := .setRangeOrder, span := ⟨a.span.start, b.span.stop⟩ }
  | rest => .ok (← first.toSet, rest)

/-- The union of items, the last one first. -/
def unionOf (place : List Char) (items : List SetTree) : SetTree :=
  match items.reverse with
  | [] => .nothing (stretch place place)
  | i :: rest => rest.foldl .union i

/-- Completes the operation that has been begun. -/
def complete (pending : Pending) (second : SetTree) : SetTree :=
  match pending with
  | some (op, first) => .operation op first second
  | none => second

/-- The operation at the front of a text. -/
def readOperation? : List Char → Option (SetOperation × List Char)
  | '&' :: '&' :: r => some (.intersection, r)
  | '-' :: '-' :: r => some (.difference, r)
  | '~' :: '~' :: r => some (.symmetricDifference, r)
  | _ => none

/-- Reads the rest of sets: `level` is the innermost one, `outer` are those around it, and `items` and `pending` belong
to the innermost. Every step takes a character, so the length of the text is fuel enough. -/
def readSetFrom (expanded : Bool) :
    Nat → SetLevel → List SetLevel → List SetTree → Pending → List Char → Except Complaint (SetTree × List Char)
  | 0, level, _, _, _, _ => .error { cause := .setUnclosed, span := level.opening }
  | fuel + 1, level, outer, items, pending, s =>
    let s := skip expanded s
    match s, readNamedClass? s, readOperation? s with
    | [], _, _ => .error { cause := .setUnclosed, span := level.opening }
    | _, some (t, rest), _ => readSetFrom expanded fuel level outer (t :: items) pending rest
    | _, _, some (op, rest) =>
      readSetFrom expanded fuel level outer [] (some (op, complete pending (unionOf s items))) rest
    | '[' :: _, _, _ => do
      let ((inner, first), rest) ← openSet expanded items pending s
      readSetFrom expanded fuel inner (level :: outer) first none rest
    | ']' :: r, _, _ =>
      let set : SetTree :=
        .bracketed ⟨level.opening.start, r.length⟩ level.negated (complete pending (unionOf s items))
      match outer with
      | [] => .ok (set, r)
      | next :: outer => readSetFrom expanded fuel next outer (set :: level.items) level.pending r
    | _, _, _ => do
      let (t, rest) ← readSetItem expanded level.opening s
      readSetFrom expanded fuel level outer (t :: items) pending rest

/-- Reads a set, from the opening bracket on. -/
def readSet (expanded : Bool) (s : List Char) : Except Complaint (SetTree × List Char) := do
  let ((level, first), rest) ← openSet expanded [] none s
  readSetFrom expanded (rest.length + 1) level [] first none rest

end PaymentDesk.Pattern
