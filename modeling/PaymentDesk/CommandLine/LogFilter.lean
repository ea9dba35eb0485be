import PaymentDesk.Log
import PaymentDesk.Pattern.Meaning
import PaymentDesk.Text.Blank

/-!
# Which log records are shown, and how

A filter is a list of directives such as `part=level`, `part` or `level`, separated by commas, and perhaps a pattern
after a slash. Of the directives whose part starts the name of a record's source, the longest decides whether the record
is important enough; then the pattern must occur in its text. A record is shown with its level, its source and its text;
the sources are filled up to the longest that was shown so far.
-/

namespace PaymentDesk.CommandLine

open Text Log

/-- Records of sources that start with `part`, or of all sources, are shown from rank `least` on. -/
structure Directive where
  part : Option (List Char)
  least : Nat
  deriving DecidableEq, Repr

/-- Directives, and a pattern for the texts of records. -/
structure LogFilter where
  directives : List Directive
  pattern : Option Pattern

/-! ## Reading -/

/-- The least rank that a level lets through. -/
def levelOf? (s : List Char) : Option Nat :=
  match String.ofList (s.map Char.toLower) with
  | "off" => some 6
  | "error" => some Level.error.rank
  | "warn" => some Level.warn.rank
  | "info" => some Level.info.rank
  | "debug" => some Level.debug.rank
  | "trace" => some Level.trace.rank
  | _ => none

/-- A complaint about a part of a filter that counts for nothing. -/
def ignored (s : List Char) : List Char := "warning: invalid logging spec '".toList ++ s ++ "', ignoring it".toList

namespace Directive

/-- Reads a directive, or complains. -/
def ofText (s : List Char) : Except (List Char) Directive :=
  match fields (· == '=') s with
  | [a] => match levelOf? a with
    | some n => .ok ⟨none, n⟩
    | none => .ok ⟨some a, Level.trace.rank⟩
  | [a, b] =>
    let b := trim b
    if b.isEmpty then .ok ⟨some a, Level.trace.rank⟩
    else match levelOf? b with
      | some n => .ok ⟨some a, n⟩
      | none => .error (ignored b ++ ['\n'])
  | _ => .error (ignored s ++ ['\n'])

/-- The length of the part that a directive names. -/
def length (d : Directive) : Nat := (d.part.getD []).length

/-- A directive is about a source. -/
def appliesTo (d : Directive) (source : Source) : Bool := d.part.all (·.isPrefixOf source.path)

/-- Adds a directive to others. One with the same part makes way for it. -/
def addTo (directives : List Directive) (d : Directive) : List Directive :=
  if directives.any (·.part == d.part) then directives.map fun e => if e.part == d.part then d else e
  else directives ++ [d]

end Directive

/-- The directives in a text, and the complaints about them. -/
def readDirectives (s : List Char) : List Directive × List Char :=
  let read := (((fields (· == ',') s).map trim).filter (! ·.isEmpty)).map Directive.ofText
  ((read.filterMap (·.toOption)).foldl Directive.addTo [],
    read.flatMap fun r => match r with | .error c => c | .ok _ => [])

/-- The pattern in a text, or a complaint. -/
def readPattern (s : List Char) : Option Pattern × List Char :=
  match Pattern.ofText s with
  | .ok p => (some p, [])
  | .error f => (none, "warning: invalid regex filter - ".toList ++ f.message ++ ['\n'])

/-- The filter in a text, and the complaints about it. A second slash spoils the whole. -/
def LogFilter.ofText (s : List Char) : LogFilter × List Char :=
  match fields (· == '/') s with
  | [d] =>
    let (directives, complaints) := readDirectives d
    (⟨directives, none⟩, complaints)
  | [d, p] =>
    let (directives, complaints) := readDirectives d
    let (pattern, complaint) := readPattern p
    (⟨directives, pattern⟩, complaints ++ complaint)
  | _ => (⟨[], none⟩, ignored s ++ " (too many '/'s)\n".toList)

/-! ## Showing -/

/-- The directives by the lengths of their parts, the last one of equal length first; errors only when there is none. -/
def LogFilter.ranked (f : LogFilter) : List Directive :=
  if f.directives.isEmpty then [⟨none, Level.error.rank⟩]
  else (f.directives.mergeSort fun d e => d.length ≤ e.length).reverse

/-- A record is shown. -/
def LogFilter.shows (f : LogFilter) (r : Record) : Bool :=
  (match f.ranked.find? (·.appliesTo r.source) with
    | some d => d.least ≤ r.level.rank
    | none => false) && f.pattern.all (·.occursIn r.text)

/-- A text filled up with spaces. -/
def padded (width : Nat) (s : List Char) : List Char := s ++ List.replicate (width - s.length) ' '

/-- The lines of records, the sources being filled up to `width` at least. -/
def recordLines (width : Nat) : List Record → List Char
  | [] => []
  | r :: rest =>
    let width := max width r.source.path.length
    ' ' :: padded 5 r.level.name ++ ' ' :: padded width r.source.path ++ " > ".toList ++ r.text ++
      '\n' :: recordLines width rest

/-- What a filter shows of some records, with the complaints about the filter in front. -/
def logText (filter : Option (List Char)) (records : List Record) : List Char :=
  let (filter, complaints) := LogFilter.ofText (filter.getD [])
  complaints ++ recordLines 0 (records.filter filter.shows)

end PaymentDesk.CommandLine
