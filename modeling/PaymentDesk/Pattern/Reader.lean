import PaymentDesk.Pattern.Reader.Set
import PaymentDesk.Text.Alphanumeric

/-!
# Reading patterns

`readTree` reads a whole pattern step by step. What is read of the groups around the innermost one is kept in `Frame`s;
a group is complete at its closing parenthesis, and the pattern at the end of the text.
-/

namespace PaymentDesk.Pattern

open Text

/-! ## Repetitions -/

/-- Something that can be repeated. -/
def Tree.isRepeatable : Tree → Bool
  | .empty | .flags _ => false
  | _ => true

/-- The item that is repeated, and those before it; `s` is the text from the sign of repetition on. -/
def lastItem (s : List Char) : List Tree → Except Complaint (Tree × List Tree)
  | t :: rest => if t.isRepeatable then .ok (t, rest) else complain .nothingToRepeat s s
  | [] => complain .nothingToRepeat s s

/-- A text without the question mark that makes a repetition a lazy one. -/
def dropLazy : List Char → List Char
  | '?' :: r => r
  | s => s

/-- Reads a number in a count: its value, or a complaint that may come too early to matter. -/
def readCount (expanded : Bool) (s : List Char) : Except Complaint Nat × List Char :=
  let s := s.dropWhile isBlank
  let (digits, after) := gather expanded Char.isDigit s
  let rest := after.dropWhile isBlank
  if digits.isEmpty then (complain .countEmpty s after, rest)
  else match Decimal.readFrom (Nat.pow 2 32) 0 digits with
    | .ok n => (.ok n, rest)
    | .error _ => (complain .countInvalid s after, rest)

/-- The least and the greatest number of repetitions. -/
structure Bounds where
  least : Nat
  most : Option Nat

/-- Reads the end of a count, which starts with `s`. -/
def closeCount (expanded : Bool) (s : List Char) (b : Bounds) (rest : List Char) :
    Except Complaint (Bounds × List Char) :=
  match rest with
  | '\x7d' :: r =>
    let rest := dropLazy (skip expanded r)
    if b.most.all (b.least ≤ ·) then .ok (b, rest) else complain .countOrder s rest
  | _ => complain .countUnclosed s rest

/-- Reads a count, from the opening brace on. -/
def readBounds (expanded : Bool) (s : List Char) : Except Complaint (Bounds × List Char) :=
  match skip expanded (s.drop 1) with
  | [] => complain .countUnclosed s []
  | inner@(_ :: _) =>
    match readCount expanded inner with
    | (_, []) => complain .countUnclosed s []
    | (first, ',' :: r) =>
      match skip expanded r with
      | [] => complain .countUnclosed s []
      | '\x7d' :: r => do closeCount expanded s ⟨← first, none⟩ ('\x7d' :: r)
      | inner => do
        let least ← first
        let (second, rest) := readCount expanded inner
        closeCount expanded s ⟨least, some (← second)⟩ rest
    | (first, rest) => do
      let n ← first
      closeCount expanded s ⟨n, some n⟩ rest

/-! ## Groups -/

/-- A character in the name of a group. -/
def isNameChar (first : Bool) (c : Char) : Bool :=
  c == '_' || (isAlphanumeric c && ! (first && c.isDigit)) || (! first && (c == '.' || c == '[' || c == ']'))

/-- Reads the characters of a name up to the angle bracket behind it. -/
def readNameChars (first : Bool) : List Char → Except Complaint (List Char × List Char)
  | [] => complain .nameEnd [] []
  | c :: r =>
    if c = '>' then .ok ([], r)
    else if isNameChar first c then do
      let (name, rest) ← readNameChars false r
      .ok (c :: name, rest)
    else complain .nameInvalid (c :: r) r

/-- The names of the groups so far, and where they are written. -/
abbrev Names := List (List Char × Span)

/-- Reads the name of a group, which no other group may have. -/
def readName (names : Names) (s : List Char) : Except Complaint (Names × List Char) := do
  let (name, rest) ← readNameChars true s
  if name.isEmpty then complain .nameEmpty s s
  else
    let span : Span := ⟨s.length, s.length - name.length⟩
    match names.find? (·.1 == name) with
    | some other => .error { cause := .nameDuplicate, span, clash := some other.2 }
    | none => .ok ((name, span) :: names, rest)

/-- The flag that a letter stands for. -/
def flag? (c : Char) : Option Flag :=
  match c with
  | 'i' => some .ignoreCase
  | 'm' => some .manyLines
  | 's' => some .dotAll
  | 'U' => some .swapGreed
  | 'u' => some .unicode
  | 'R' => some .returns
  | 'x' => some .expanded
  | _ => none

/-- A flag, or the sign that negates those behind it, with the place where it is written. -/
abbrev FlagItem := Option Flag × Span

/-- Reads flags up to a colon or a closing parenthesis, which is left; `seen` are the items so far, the last one
first. -/
def readFlagItems (seen : List FlagItem) : List Char → Except Complaint (List FlagItem × List Char)
  | [] => complain .flagEnd [] []
  | c :: r =>
    if c = ':' ∨ c = ')' then
      match seen with
      | (none, span) :: _ => .error { cause := .flagDangling, span }
      | _ => .ok (seen.reverse, c :: r)
    else
      let span := stretch (c :: r) r
      match (if c = '-' then some none else (flag? c).map some) with
      | none => .error { cause := .flagUnknown, span }
      | some item =>
        match seen.find? (·.1 == item) with
        | some other =>
          .error { cause := if item.isNone then .flagNegatedTwice else .flagDuplicate, span, clash := some other.2 }
        | none => readFlagItems ((item, span) :: seen) r

/-- The flags with what they are set to. -/
def flagsOf (items : List FlagItem) : Flags :=
  let before := items.takeWhile (·.1.isSome)
  let after := items.dropWhile (·.1.isSome)
  before.filterMap (fun i => i.1.map (·, true)) ++ after.filterMap fun i => i.1.map (·, false)

/-- What stands at the front of a group. -/
inductive Opening where
  /-- A group that is remembered. -/
  | capture
  /-- A group with a name. -/
  | name (names : Names)
  /-- A group with flags of its own. -/
  | flags (f : Flags)
  /-- No group: flags for what follows. -/
  | setFlags (f : Flags)

/-- The signs of what may be asked of the text around a place; none of them is known. -/
def lookAroundSigns : List (List Char) := ["?=".toList, "?!".toList, "?<=".toList, "?<!".toList]

/-- Reads the front of a group, from the opening parenthesis on. -/
def readOpening (expanded : Bool) (names : Names) (s : List Char) : Except Complaint (Opening × List Char) :=
  let inner := skip expanded (s.drop 1)
  match lookAroundSigns.find? (·.isPrefixOf inner) with
  | some sign => complain .lookAround s (inner.drop sign.length)
  | none =>
    match inner with
    | '?' :: 'P' :: '<' :: r | '?' :: '<' :: r => (readName names r).map fun p => (.name p.1, p.2)
    | '?' :: [] => complain .groupUnclosed s (s.drop 1)
    | '?' :: r => do
      match ← readFlagItems [] r with
      | ([], ')' :: _) => complain .nothingToRepeat inner inner
      | (items, ')' :: rest) => .ok (.setFlags (flagsOf items), rest)
      | (items, rest) => .ok (.flags (flagsOf items), rest.drop 1)
    | _ => .ok (.capture, inner)

/-! ## Whole patterns -/

/-- A group that has been begun, and what is known of the group around it. -/
structure Frame where
  opening : Span
  flags : Flags
  /-- The complete alternatives of the group around it, the last one first. -/
  branches : List Tree
  /-- The items of its last alternative, the last one first. -/
  items : List Tree
  expanded : Bool

/-- What is known of a pattern that is being read; the alternatives and items are those of the innermost group. -/
structure Progress where
  branches : List Tree := []
  items : List Tree := []
  frames : List Frame := []
  expanded : Bool := false
  names : Names := []

namespace Progress

/-- The innermost group as a tree. -/
def tree (p : Progress) : Tree := .ofEither (.ofSeq p.items.reverse :: p.branches).reverse

/-- The pattern with one more item. -/
def push (p : Progress) (t : Tree) : Progress := { p with items := t :: p.items }

/-- Whether blanks stand for nothing after some flags. -/
def isExpanded (before : Bool) (f : Flags) : Bool := ((f.find? (·.1 == .expanded)).map (·.2)).getD before

/-- Begins a group, from the opening parenthesis on. -/
def openGroup (p : Progress) (s : List Char) : Except Complaint (Progress × List Char) := do
  let (opening, rest) ← readOpening p.expanded p.names s
  let enter (f : Flags) (names : Names) : Progress :=
    { frames := ⟨stretch s (s.drop 1), f, p.branches, p.items, p.expanded⟩ :: p.frames,
      expanded := isExpanded p.expanded f, names }
  match opening with
  | .capture => .ok (enter [] p.names, rest)
  | .name names => .ok (enter [] names, rest)
  | .flags f => .ok (enter f p.names, rest)
  | .setFlags f => .ok ({ p.push (.flags f) with expanded := isExpanded p.expanded f }, rest)

/-- Completes the innermost group; `s` is the text from the closing parenthesis on. -/
def closeGroup (p : Progress) (s : List Char) : Except Complaint (Progress × List Char) :=
  match p.frames with
  | [] => complain .groupUnopened s (s.drop 1)
  | f :: frames =>
    .ok ({ p with branches := f.branches, items := .group f.flags p.tree :: f.items, frames, expanded := f.expanded },
      s.drop 1)

/-- Repeats the last item. -/
def repeatLast (p : Progress) (s : List Char) (least : Nat) (most : Option Nat) :
    Except Complaint (Progress × List Char) := do
  let (t, items) ← lastItem s p.items
  .ok ({ p with items := .repeated least most t :: items }, dropLazy (s.drop 1))

/-- Reads one item, or what stands between items. -/
def step (p : Progress) (s : List Char) : Except Complaint (Progress × List Char) :=
  match s with
  | '(' :: _ => p.openGroup s
  | ')' :: _ => p.closeGroup s
  | '|' :: r => .ok ({ p with branches := .ofSeq p.items.reverse :: p.branches, items := [] }, r)
  | '[' :: _ => (readSet p.expanded s).map fun q => (p.push (.atom (.set q.1)), q.2)
  | '?' :: _ => p.repeatLast s 0 (some 1)
  | '*' :: _ => p.repeatLast s 0 none
  | '+' :: _ => p.repeatLast s 1 none
  | '\x7b' :: _ => do
    let (t, items) ← lastItem s p.items
    let (b, rest) ← readBounds p.expanded s
    .ok ({ p with items := .repeated b.least b.most t :: items }, rest)
  | '\\' :: _ => (readEscape p.expanded s).map fun q => (p.push (.atom q.1), q.2)
  | c :: r =>
    let span := stretch s r
    .ok (p.push (match c with
      | '.' => .dot span
      | '^' => .atom (.anchor span .lineStart)
      | '$' => .atom (.anchor span .lineEnd)
      | _ => .atom (.literal { char := c, span })), r)
  | [] => .ok (p, [])

/-- The pattern at the end of the text. -/
def finish (p : Progress) : Except Complaint Tree :=
  match p.frames with
  | [] => .ok p.tree
  | f :: _ => .error { cause := .groupUnclosed, span := f.opening }

/-- Reads the rest of a pattern. Every step takes a character, so the length of the text is fuel enough. -/
def readFrom : Nat → Progress → List Char → Except Complaint Tree
  | 0, p, _ => p.finish
  | fuel + 1, p, s =>
    match skip p.expanded s with
    | [] => p.finish
    | s => do
      let (p, rest) ← p.step s
      readFrom fuel p rest

end Progress

/-- Reads a pattern. -/
def readTree (s : List Char) : Except Complaint Tree := Progress.readFrom (s.length + 1) {} s

end PaymentDesk.Pattern
