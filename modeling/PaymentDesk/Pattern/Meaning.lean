import PaymentDesk.Pattern.Basic
import PaymentDesk.Pattern.Reader

/-!
# What a written pattern means

`Tree.meaning` gives the pattern for a tree, under the flags that are set where it stands, and `Pattern.ofText` the one
for a text. Characters are those of Unicode unless a flag says that they are bytes; then no set may go beyond ASCII, for
what it matches would be no text. There are no tables of the letters of all scripts, so what needs them is refused.
-/

namespace PaymentDesk.Pattern

/-! ## Sets -/

/-- The characters of a class with a name. -/
def NamedClass.chars : NamedClass → CharSet
  | .alnum => .normal [(0x30, 0x39), (0x41, 0x5A), (0x61, 0x7A)]
  | .alpha => .normal [(0x41, 0x5A), (0x61, 0x7A)]
  | .ascii => [(0, 0x7F)]
  | .blank => .normal [(0x09, 0x09), (0x20, 0x20)]
  | .cntrl => .normal [(0, 0x1F), (0x7F, 0x7F)]
  | .digit => [(0x30, 0x39)]
  | .graph => [(0x21, 0x7E)]
  | .lower => [(0x61, 0x7A)]
  | .print => [(0x20, 0x7E)]
  | .punct => .normal [(0x21, 0x2F), (0x3A, 0x40), (0x5B, 0x60), (0x7B, 0x7E)]
  | .space => .normal [(0x09, 0x0D), (0x20, 0x20)]
  | .upper => [(0x41, 0x5A)]
  | .word => .wordChars
  | .xdigit => .normal [(0x30, 0x39), (0x41, 0x46), (0x61, 0x66)]

/-- The characters of ASCII of a class that a letter names. -/
def ShortClass.chars : ShortClass → CharSet
  | .digits => NamedClass.digit.chars
  | .spaces => NamedClass.space.chars
  | .words => .wordChars

/-- The flag is set. -/
def Flags.has (f : Flags) (flag : Flag) : Bool := ((f.find? (·.1 == flag)).map (·.2)).getD (flag == .unicode)

/-- A set with the other case of its letters, if case does not count. -/
def foldCase (f : Flags) (span : Span) (s : CharSet) : Except Complaint CharSet :=
  if ! f.has .ignoreCase || s.isEmpty then .ok s
  else if f.has .unicode then .error { cause := .noCaseTable, span }
  else .ok s.withBothCases

/-- A set that is complete: perhaps with both cases, perhaps negated. -/
def closeSet (f : Flags) (span : Span) (negated : Bool) (s : CharSet) : Except Complaint CharSet := do
  let s ← foldCase f span s
  let s := if negated then s.complement else s
  if ! f.has .unicode && ! s.isAscii then .error { cause := .invalidUtf8, span } else .ok s

/-- A character as it is meant under some flags. -/
def Literal.meaning (f : Flags) (l : Literal) : Except Complaint Char :=
  if ! f.has .unicode && l.isByte && 0x80 ≤ l.char.toNat then .error { cause := .invalidUtf8, span := l.span }
  else .ok l.char

/-- A character in a set. -/
def Literal.meaningInSet (f : Flags) (l : Literal) : Except Complaint Char := do
  let c ← l.meaning f
  if ! f.has .unicode && 0x80 ≤ c.toNat then .error { cause := .unicodeForbidden, span := l.span } else .ok c

/-- The name of a property as it is looked up: in small letters, without what is not looked at. -/
def propertyName (name : List Char) : List Char :=
  let bare := if (name.take 2).map Char.toLower == "is".toList then name.drop 2 else name
  let plain := (bare.filter fun c => c.toNat < 0x80 && c != ' ' && c != '_' && c != '-').map Char.toLower
  if bare.length < name.length ∧ plain = ['c'] then "isc".toList else plain

/-- What is wrong with a property: there are no tables. Three names are known to be no names of properties. -/
def propertyFault (f : Flags) (isLetter : Bool) (name : List Char) : Cause :=
  if ! f.has .unicode then .unicodeForbidden
  else if ! isLetter && ["cf".toList, "sc".toList, "lc".toList].contains (propertyName name) then .propertyValueUnknown
  else .propertyUnknown

/-- The result of an operation. -/
def SetOperation.apply : SetOperation → CharSet → CharSet → CharSet
  | .intersection => .inter
  | .difference => .diff
  | .symmetricDifference => .symmDiff

/-- The characters of a set. -/
def SetTree.meaning (f : Flags) : SetTree → Except Complaint CharSet
  | .literal l => (l.meaningInSet f).map .single
  | .range first last => do
    let a ← first.meaningInSet f
    let b ← last.meaningInSet f
    .ok (.between a b)
  | .short span name negated =>
    if f.has .unicode then .error { cause := .noCharacterClasses, span }
    else if negated then .error { cause := .invalidUtf8, span }
    else .ok name.chars
  | .named span name negated => closeSet f span negated name.chars
  | .property span name isLetter _ => .error { cause := propertyFault f isLetter name, span }
  | .bracketed span negated inner => do closeSet f span negated (← inner.meaning f)
  | .nothing _ => .ok []
  | .union a b => do
    let s ← a.meaning f
    let t ← b.meaning f
    .ok (s.union t)
  | .operation op a b => do
    let s ← a.meaning f
    let t ← b.meaning f
    let t ← foldCase f b.span t
    let s ← foldCase f a.span s
    .ok (op.apply s t)

/-! ## Patterns -/

/-- What is asked of a place. -/
def Anchor.meaning (f : Flags) (a : Anchor) : Look :=
  let word := fun look => if f.has .unicode then .anyBoundary else look
  match a with
  | .textStart => .textStart
  | .textEnd => .textEnd
  | .lineStart =>
    if ! f.has .manyLines then .textStart else if f.has .returns then .lineStartAfterReturn else .lineStart
  | .lineEnd => if ! f.has .manyLines then .textEnd else if f.has .returns then .lineEndBeforeReturn else .lineEnd
  | .wordBoundary => word .wordBoundary
  | .noWordBoundary => word .noWordBoundary
  | .wordStart => word .wordStart
  | .wordEnd => word .wordEnd
  | .noWordBefore => word .noWordBefore
  | .noWordAfter => word .noWordAfter

/-- The characters that a dot matches. -/
def dotChars (f : Flags) : CharSet :=
  if f.has .dotAll then CharSet.complement []
  else if f.has .returns then CharSet.complement (.normal [(0x0A, 0x0A), (0x0D, 0x0D)])
  else CharSet.complement (.single '\n')

/-- The pattern for one of the least parts. -/
def Atom.meaning (f : Flags) : Atom → Except Complaint Pattern
  | .literal l => do
    let c ← l.meaning f
    if f.has .ignoreCase && f.has .unicode then .error { cause := .noCaseTable, span := l.span }
    else if f.has .ignoreCase then .ok (.one (CharSet.single c).withBothCases)
    else .ok (.one (.single c))
  | .set s => (s.meaning f).map .one
  | .anchor _ a => .ok (.look (a.meaning f))

/-- The pattern for a tree under some flags, and the flags for what follows it. -/
def Tree.meaning (f : Flags) : Tree → Except Complaint (Pattern × Flags)
  | .empty => .ok (.empty, f)
  | .flags g => .ok (.empty, g ++ f)
  | .atom a => (a.meaning f).map (·, f)
  | .dot span => if f.has .unicode then .ok (.one (dotChars f), f) else .error { cause := .invalidUtf8, span }
  | .group g body => do
    let (p, _) ← body.meaning (g ++ f)
    .ok (p, f)
  | .repeated least most body => do
    let (p, f) ← body.meaning f
    .ok (if most = some 0 then .empty else .repeated least most p, f)
  | .seq a b => do
    let (p, f) ← a.meaning f
    let (q, f) ← b.meaning f
    .ok (p.andThen q, f)
  | .either a b => do
    let (p, f) ← a.meaning f
    let (q, f) ← b.meaning f
    .ok (.either p q, f)

/-- The pattern that a text spells. -/
def ofText (s : List Char) : Except Fault Pattern :=
  match (do (← readTree s).meaning []) with
  | .error c => .error (.invalid s c)
  | .ok (p, _) =>
    if ! p.isBuildable then .error .unbuildable
    else if sizeLimit < 32 * p.size then .error .tooLarge
    else .ok p

end PaymentDesk.Pattern
