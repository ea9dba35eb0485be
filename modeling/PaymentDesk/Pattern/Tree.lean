import PaymentDesk.Pattern.Fault

/-!
# Patterns as they are written

What is read from the text of a pattern is a tree. What its parts mean depends on the flags that are set where they
stand, so the tree keeps the parts as they are written, with the stretches of text that faults may lie in.
-/

namespace PaymentDesk.Pattern

/-- A character. One that is written with two hexadecimal digits may be meant as a byte. -/
structure Literal where
  char : Char
  span : Span
  isByte : Bool := false
  deriving DecidableEq, Repr

/-- The classes of characters that a single letter names. -/
inductive ShortClass where
  | digits
  | spaces
  | words
  deriving DecidableEq, Repr

/-- The classes of characters of ASCII that have names in brackets. -/
inductive NamedClass where
  | alnum
  | alpha
  | ascii
  | blank
  | cntrl
  | digit
  | graph
  | lower
  | print
  | punct
  | space
  | upper
  | word
  | xdigit
  deriving DecidableEq, Repr

/-- The operations on sets, apart from the union. -/
inductive SetOperation where
  | intersection
  | difference
  | symmetricDifference
  deriving DecidableEq, Repr

/-- A set of characters as it is written. -/
inductive SetTree where
  | literal (l : Literal)
  | range (first last : Literal)
  | short (span : Span) (name : ShortClass) (negated : Bool)
  | named (span : Span) (name : NamedClass) (negated : Bool)
  | property (span : Span) (name : List Char) (isLetter negated : Bool)
  | bracketed (span : Span) (negated : Bool) (inner : SetTree)
  /-- No character, where nothing is written. -/
  | nothing (span : Span)
  | union (first second : SetTree)
  | operation (op : SetOperation) (first second : SetTree)
  deriving DecidableEq, Repr

/-- Where a set is written. -/
def SetTree.span : SetTree → Span
  | .literal l => l.span
  | .range a b => ⟨a.span.start, b.span.stop⟩
  | .short s _ _ | .named s _ _ | .property s _ _ _ | .bracketed s _ _ | .nothing s => s
  | .union a b | .operation _ a b => ⟨a.span.start, b.span.stop⟩

/-- What is asked of a place, as it is written. -/
inductive Anchor where
  | lineStart
  | lineEnd
  | textStart
  | textEnd
  | wordBoundary
  | noWordBoundary
  | wordStart
  | wordEnd
  | noWordBefore
  | noWordAfter
  deriving DecidableEq, Repr

/-- The least parts of a pattern: a character, a set, or something that is asked of a place. -/
inductive Atom where
  | literal (l : Literal)
  | set (s : SetTree)
  | anchor (span : Span) (a : Anchor)
  deriving DecidableEq, Repr

/-- A flag: what letters, lines and characters are. -/
inductive Flag where
  | ignoreCase
  | manyLines
  | dotAll
  | swapGreed
  | unicode
  | returns
  | expanded
  deriving DecidableEq, Repr

/-- Flags with what they are set to. -/
abbrev Flags := List (Flag × Bool)

/-- A pattern as it is written. -/
inductive Tree where
  | empty
  | flags (f : Flags)
  | atom (a : Atom)
  | dot (span : Span)
  | group (f : Flags) (body : Tree)
  | repeated (least : Nat) (most : Option Nat) (body : Tree)
  | seq (first second : Tree)
  | either (first second : Tree)
  deriving DecidableEq, Repr

/-- Trees one after another. -/
def Tree.ofSeq : List Tree → Tree
  | [] => .empty
  | [t] => t
  | t :: rest => .seq t (ofSeq rest)

/-- Trees of which one is meant. -/
def Tree.ofEither : List Tree → Tree
  | [] => .empty
  | [t] => t
  | t :: rest => .either t (ofEither rest)

end PaymentDesk.Pattern
