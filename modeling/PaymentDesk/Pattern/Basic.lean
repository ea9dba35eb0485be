import PaymentDesk.Pattern.CharSet

/-!
# Patterns and what they match

A pattern describes stretches of text. Whether it matches is found by reading the text once: `residuals` are the
patterns that are left of one when a character is read, and `acceptsHere` tells that nothing more needs to be read. Both
depend on the characters around the place, for a pattern may ask for the start of a line or the end of a word (`Look`).
-/

namespace PaymentDesk

namespace Pattern

/-- What a pattern may ask of a place in the text. -/
inductive Look where
  | textStart
  | textEnd
  | lineStart
  | lineEnd
  | lineStartAfterReturn
  | lineEndBeforeReturn
  | wordBoundary
  | noWordBoundary
  | wordStart
  | wordEnd
  | noWordBefore
  | noWordAfter
  /-- A boundary of words of any script; there is no table of such words. -/
  | anyBoundary
  deriving DecidableEq, Repr

/-- A character of a word. -/
def isWordChar (c : Char) : Bool := c.isAlphanum || c == '_'

/-- A place between two characters is as a pattern asks; at the ends of the text one of them is missing. -/
def Look.holds (before after : Option Char) : Look → Bool
  | .textStart => before.isNone
  | .textEnd => after.isNone
  | .lineStart => before.all (· == '\n')
  | .lineEnd => after.all (· == '\n')
  | .lineStartAfterReturn => before.all fun c => c == '\n' || (c == '\r' && after != some '\n')
  | .lineEndBeforeReturn => after.all fun c => c == '\r' || (c == '\n' && before != some '\r')
  | .wordBoundary => before.any isWordChar != after.any isWordChar
  | .noWordBoundary => before.any isWordChar == after.any isWordChar
  | .wordStart => ! before.any isWordChar && after.any isWordChar
  | .wordEnd => before.any isWordChar && ! after.any isWordChar
  | .noWordBefore => ! before.any isWordChar
  | .noWordAfter => ! after.any isWordChar
  | .anyBoundary => false

end Pattern

/-- A pattern. -/
inductive Pattern where
  | empty
  | one (set : Pattern.CharSet)
  | look (what : Pattern.Look)
  | seq (first second : Pattern)
  | either (first second : Pattern)
  | repeated (least : Nat) (most : Option Nat) (body : Pattern)
  deriving DecidableEq, Repr

namespace Pattern

/-- One pattern after another. -/
def andThen : Pattern → Pattern → Pattern
  | .empty, q => q
  | p, q => .seq p q

/-- A pattern matches the empty stretch at a place. -/
def acceptsHere (before after : Option Char) : Pattern → Bool
  | .empty => true
  | .one _ => false
  | .look l => l.holds before after
  | .seq p q => p.acceptsHere before after && q.acceptsHere before after
  | .either p q => p.acceptsHere before after || q.acceptsHere before after
  | .repeated least _ p => least == 0 || p.acceptsHere before after

/-- The patterns of which one has to match after `c`, so that the whole pattern matches from `c` on. Where the body of a
repetition accepts the empty stretch, the repetitions that are due need no characters. -/
def residuals (before : Option Char) (c : Char) : Pattern → List Pattern
  | .empty | .look _ => []
  | .one set => if set.contains c then [.empty] else []
  | .seq p q =>
    (p.residuals before c).map (·.andThen q) ++ if p.acceptsHere before (some c) then q.residuals before c else []
  | .either p q => p.residuals before c ++ q.residuals before c
  | .repeated least most p =>
    let due := if p.acceptsHere before (some c) then 0 else least - 1
    match most with
    | some 0 => []
    | some (n + 1) => (p.residuals before c).map (·.andThen (.repeated due (some n) p))
    | none => (p.residuals before c).map (·.andThen (.repeated due none p))

/-- One of the patterns matches at the place, or the pattern `p` matches somewhere behind it. -/
def matchesFrom (p : Pattern) (started : List Pattern) (before : Option Char) : List Char → Bool
  | [] => (p :: started).any (·.acceptsHere before none)
  | c :: s =>
    (p :: started).any (·.acceptsHere before (some c)) ||
      matchesFrom p ((p :: started).flatMap (·.residuals before c)).eraseDups (some c) s

/-- A pattern matches some stretch of a text. -/
def occursIn (p : Pattern) (s : List Char) : Bool := matchesFrom p [] none s

/-- Nothing is asked of a place that cannot be told. -/
def isBuildable : Pattern → Bool
  | .empty | .one _ => true
  | .look l => l != .anyBoundary
  | .seq p q | .either p q => p.isBuildable && q.isBuildable
  | .repeated _ _ p => p.isBuildable

/-- The number of steps of the machine that a pattern is turned into, roughly. -/
def size : Pattern → Nat
  | .empty | .look _ => 1
  | .one set => if set.isAscii then 1 + set.length / 4 else 8 + set.length
  | .seq p q => p.size + q.size
  | .either p q => p.size + q.size + 1
  | .repeated least most p =>
    match most with
    | some n => n * p.size + (n - least) + 1
    | none => (least + 1) * p.size + 1

end Pattern

end PaymentDesk
