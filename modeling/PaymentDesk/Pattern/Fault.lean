import PaymentDesk.Text.Digits
import PaymentDesk.Text.Line

/-!
# Why a text is no pattern

A fault has a cause and a stretch of the text where it lies (`Span`). Its report shows the text with the stretch marked,
and the cause below (`Fault.message`); a text of several lines is shown with the numbers of its lines.
-/

namespace PaymentDesk.Pattern

open Text

/-- A stretch of a text, by the numbers of characters that are left behind its start and its end. -/
structure Span where
  start : Nat
  stop : Nat
  deriving DecidableEq, Repr

/-- What is wrong with a text that should be a pattern. -/
inductive Cause where
  | setEscape
  | setRangeOrder
  | setRangeEnd
  | setUnclosed
  | countInvalid
  | hexEmpty
  | hexNoCharacter
  | hexDigit
  | escapeEnd
  | escapeUnknown
  | flagDangling
  | flagDuplicate
  | flagNegatedTwice
  | flagEnd
  | flagUnknown
  | nameDuplicate
  | nameEmpty
  | nameInvalid
  | nameEnd
  | groupUnclosed
  | groupUnopened
  | countOrder
  | countEmpty
  | countUnclosed
  | nothingToRepeat
  | boundaryUnclosed
  | boundaryUnknown
  | boundaryEnd
  | propertyInvalid
  | backreference
  | lookAround
  | unicodeForbidden
  | invalidUtf8
  | propertyUnknown
  | propertyValueUnknown
  | noCharacterClasses
  | noCaseTable
  deriving DecidableEq, Repr

/-- The wording of a cause. -/
def Cause.message : Cause → List Char
  | .setEscape => "invalid escape sequence found in character class".toList
  | .setRangeOrder => "invalid character class range, the start must be <= the end".toList
  | .setRangeEnd => "invalid range boundary, must be a literal".toList
  | .setUnclosed => "unclosed character class".toList
  | .countInvalid => "decimal literal invalid".toList
  | .hexEmpty => "hexadecimal literal empty".toList
  | .hexNoCharacter => "hexadecimal literal is not a Unicode scalar value".toList
  | .hexDigit => "invalid hexadecimal digit".toList
  | .escapeEnd => "incomplete escape sequence, reached end of pattern prematurely".toList
  | .escapeUnknown => "unrecognized escape sequence".toList
  | .flagDangling => "dangling flag negation operator".toList
  | .flagDuplicate => "duplicate flag".toList
  | .flagNegatedTwice => "flag negation operator repeated".toList
  | .flagEnd => "expected flag but got end of regex".toList
  | .flagUnknown => "unrecognized flag".toList
  | .nameDuplicate => "duplicate capture group name".toList
  | .nameEmpty => "empty capture group name".toList
  | .nameInvalid => "invalid capture group character".toList
  | .nameEnd => "unclosed capture group name".toList
  | .groupUnclosed => "unclosed group".toList
  | .groupUnopened => "unopened group".toList
  | .countOrder => "invalid repetition count range, the start must be <= the end".toList
  | .countEmpty => "repetition quantifier expects a valid decimal".toList
  | .countUnclosed => "unclosed counted repetition".toList
  | .nothingToRepeat => "repetition operator missing expression".toList
  | .boundaryUnclosed =>
    "special word boundary assertion is either unclosed or contains an invalid character".toList
  | .boundaryUnknown =>
    "unrecognized special word boundary assertion, valid choices are: start, end, start-half or end-half".toList
  | .boundaryEnd =>
    "found either the beginning of a special word boundary or a bounded repetition on a \\b ".toList ++
      "with an opening brace, but no closing brace".toList
  | .propertyInvalid => "invalid Unicode character class".toList
  | .backreference => "backreferences are not supported".toList
  | .lookAround => "look-around, including look-ahead and look-behind, is not supported".toList
  | .unicodeForbidden => "Unicode not allowed here".toList
  | .invalidUtf8 => "pattern can match invalid UTF-8".toList
  | .propertyUnknown => "Unicode property not found".toList
  | .propertyValueUnknown => "Unicode property value not found".toList
  | .noCharacterClasses =>
    "Unicode-aware Perl class not found (make sure the unicode-perl feature is enabled)".toList
  | .noCaseTable =>
    "Unicode-aware case insensitivity matching is not available (make sure the unicode-case feature is enabled)".toList

/-- A cause, where it lies, and perhaps what it clashes with. -/
structure Complaint where
  cause : Cause
  span : Span
  clash : Option Span := none
  deriving DecidableEq, Repr

/-- Why a text is no pattern, or a pattern not one that can be used. -/
inductive Fault where
  | invalid (text : List Char) (complaint : Complaint)
  | unbuildable
  | tooLarge
  deriving DecidableEq, Repr

/-! ## Reports -/

/-- A place in a text: the line and the column, both from zero on. -/
structure Mark where
  line : Nat
  column : Nat
  deriving DecidableEq, Repr

/-- The place in front of which `left` characters of a text are left. -/
def Mark.of (text : List Char) (left : Nat) : Mark :=
  let before := text.take (text.length - left)
  ⟨before.count '\n', (before.reverse.takeWhile (· != '\n')).length⟩

/-- A line without its end. -/
def withoutEnd (line : List Char) : List Char :=
  match line.reverse with
  | '\n' :: '\r' :: r => r.reverse
  | '\n' :: r => r.reverse
  | _ => line

/-- A line with signs below the columns of some stretches. -/
def underline (position : Nat) : List (Mark × Mark) → List Char
  | [] => []
  | (a, b) :: rest =>
    let marks := max 1 (b.column - a.column)
    List.replicate (a.column - position) ' ' ++ List.replicate marks '^' ++
      underline (position + (a.column - position) + marks) rest

/-- The text of lines with the stretches inside each line marked; `width` is that of the line numbers. -/
def annotate (width : Nat) (spans : List (Mark × Mark)) (line : Nat) : List (List Char) → List Char
  | [] => []
  | l :: rest =>
    let number := Decimal.ofNat (line + 1)
    let front := if width = 0 then "    ".toList
      else List.replicate (width - number.length) ' ' ++ number ++ ": ".toList
    let here := spans.filter fun s => s.1.line == line && s.2.line == line
    let below := if here.isEmpty then []
      else List.replicate (if width = 0 then 4 else width + 2) ' ' ++ underline 0 here ++ ['\n']
    front ++ l ++ '\n' :: below ++ annotate width spans (line + 1) rest

/-- Where a stretch of several lines begins and ends. -/
def throughLines (s : Mark × Mark) : List Char :=
  let place := fun line column : Nat =>
    "line ".toList ++ Decimal.ofNat line ++ " (column ".toList ++ Decimal.ofNat column ++ [')']
  "on ".toList ++ place (s.1.line + 1) (s.1.column + 1) ++ " through ".toList ++ place (s.2.line + 1) s.2.column

/-- The text with the places of a complaint, and the cause. -/
def Complaint.message (text : List Char) (c : Complaint) : List Char :=
  let stretches := match c.clash with
    | none => [c.span]
    | some other => if other.start < c.span.start then [c.span, other] else [other, c.span]
  let spans := stretches.map fun s => (Mark.of text s.start, Mark.of text s.stop)
  let lines := (lines text).map withoutEnd
  let count := lines.length + (if text.getLast? == some '\n' then 1 else 0)
  let width := if count ≤ 1 then 0 else (Decimal.ofNat count).length
  let body := annotate width spans 0 lines
  let divider := if text.contains '\n' then List.replicate 79 '~' ++ ['\n'] else []
  let long := (spans.filter fun s => s.1.line != s.2.line).map throughLines
  "regex parse error:\n".toList ++ divider ++ body ++ divider ++
    (if long.isEmpty then [] else ['\n'].intercalate long ++ ['\n']) ++ "error: ".toList ++ c.cause.message

/-- The largest size of a pattern, in bytes. -/
def sizeLimit : Nat := 10485760

/-- The wording of a fault. -/
def Fault.message : Fault → List Char
  | .invalid text c => c.message text
  | .unbuildable => "error building NFA".toList
  | .tooLarge => "Compiled regex exceeds size limit of ".toList ++ Decimal.ofNat sizeLimit ++ " bytes.".toList

end PaymentDesk.Pattern
