import PaymentDesk.Text.Columns
import PaymentDesk.Text.LineBreak.Classes

/-!
# Where a line may be broken

`pieces` cuts a text at all places where a line may end, by the rules of the Unicode line breaking algorithm. Marks go
with the character before them (`Cluster`), so a place lies between two clusters. Some rules let a line end and others
forbid it (`Place.decide?`, `Place.keeps`); the first that applies counts, and a line may end where none applies.
-/

namespace PaymentDesk.Text

/-- A character with the marks on it. -/
structure Cluster where
  text : List Char
  base : Char
  kind : BreakClass
  /-- The last mark keeps the cluster and the next one together. -/
  joins : Bool

namespace Cluster

/-- A mark, as far as lines are concerned. -/
def isMark (k : BreakClass) : Bool := k == .attached || k == .zeroWidthJoiner

/-- A cluster of one character. A mark that stands alone counts as a letter. -/
def ofChar (c : Char) : Cluster :=
  let k := BreakClass.ofChar c
  { text := [c], base := c, kind := if isMark k then .letter else k, joins := k == .zeroWidthJoiner }

/-- Marks go with the character. -/
def takesMarks (u : Cluster) : Bool := ! (u.kind.endsLine || u.kind == .space || u.kind == .zeroWidthSpace)

/-- Clusters in reverse with one more character. -/
def add (clusters : List Cluster) (c : Char) : List Cluster :=
  let k := BreakClass.ofChar c
  match clusters with
  | u :: r =>
    if isMark k && u.takesMarks then { u with text := u.text ++ [c], joins := k == .zeroWidthJoiner } :: r
    else ofChar c :: u :: r
  | [] => [ofChar c]

/-- The clusters of a text. -/
def ofText (s : List Char) : List Cluster := (s.foldl add []).reverse

/-- A consonant or a vowel of a Brahmic script; a dotted circle stands for any. -/
def isAksara (u : Cluster) : Bool := u.kind == .aksara || u.kind == .aksaraStart || u.base == '\u25cc'

end Cluster

/-- The code points that are reserved for pictures. -/
def reservedPictures : CodePoints := .ofText
  "1F02C-1F02F 1F094-1F09F 1F0AF-1F0B0 1F0C0 1F0D0 1F0F6-1F0FF 1F1AE-1F1E5 1F203-1F20F 1F23C-1F23F 1F249-1F24F
1F252-1F25F 1F266-1F2FF 1F6D9-1F6DB 1F6ED-1F6EF 1F6FD-1F6FF 1F7DA-1F7DF 1F7EC-1F7EF 1F7F1-1F7FF 1F80C-1F80F 1F848-1F84F
1F85A-1F85F 1F888-1F88F 1F8AE-1F8AF 1F8BC-1F8BF 1F8C2-1F8CF 1F8D9-1F8FF 1FA58-1FA5F 1FA6E-1FA6F 1FA7D-1FA7F 1FA8B-1FA8D
1FAC7 1FAC9-1FACC 1FADD-1FADE 1FAEB-1FAEE 1FAF9-1FAFF 1FC00-1FFFD"

/-- A place between two clusters. -/
structure Place where
  /-- The clusters in front of the place, the nearest first. -/
  earlier : List Cluster
  /-- The last of the clusters in front of the place. -/
  last : Cluster
  /-- The first of the clusters behind the place. -/
  next : Cluster
  /-- The clusters behind the next one. -/
  later : List Cluster

namespace Place

/-- The clusters in front of the place, from the last one on that is no space. -/
def unspaced (p : Place) : List Cluster := (p.last :: p.earlier).dropWhile (·.kind == .space)

/-- The class of the last cluster in front of the place that is no space. -/
def lastVisible (p : Place) : Option BreakClass := p.unspaced.head?.map (·.kind)

/-- The class of the cluster before the last one; the start of the text has none. -/
def secondLast (p : Place) : Option BreakClass := p.earlier.head?.map (·.kind)

/-- The class of the cluster after the next one; the end of the text has none. -/
def secondNext (p : Place) : Option BreakClass := p.later.head?.map (·.kind)

/-- The clusters of a list end with a number, which marks may follow. -/
def endsWithNumber (before : List Cluster) : Bool :=
  ((before.dropWhile (·.kind.isNumberInfix)).head?.map (·.kind)) == some .digit

/-! ## Rules that say whether a line may end -/

/-- A line ends after a line end, and never in front of one. -/
def atLineEnd (p : Place) : Option Bool :=
  if p.last.kind == .carriageReturn then some (p.next.kind != .lineFeed)
  else if p.last.kind.endsLine then some true
  else if p.next.kind.endsLine then some false
  else none

/-- No line starts with a space, and a zero width space lets a line end. -/
def atSpace (p : Place) : Option Bool :=
  if p.next.kind == .space || p.next.kind == .zeroWidthSpace then some false
  else if p.lastVisible == some .zeroWidthSpace then some true
  else none

/-- Joiners and glue keep their neighbours; a space or a hyphen in front of glue lets a line end. -/
def atGlue (p : Place) : Option Bool :=
  if p.last.joins || p.last.kind == .wordJoiner || p.next.kind == .wordJoiner || p.last.kind == .glue then some false
  else if p.next.kind == .glue && ! (p.last.kind == .space || p.last.kind == .afterBreak || p.last.kind.isHyphen) then
    some false
  else none

/-- What closes does not start a line, and what opens does not end one, even where spaces stand between. -/
def atBracket (p : Place) : Option Bool :=
  if [.closing, .closingParenthesis, .exclamation, .solidus].contains p.next.kind then some false
  else if p.lastVisible == some .opening then some false
  else none

/-- An opening quotation mark after which none could open. -/
def opensQuote : List Cluster → Bool
  | q :: r => q.kind == .openingQuote && (match r with
    | [] => true
    | u :: _ => u.kind.endsLine || u.kind.isQuote || [.opening, .glue, .space, .zeroWidthSpace].contains u.kind)
  | [] => false

/-- A closing quotation mark before which none could close. -/
def closesQuote (q : Cluster) (later : List Cluster) : Bool :=
  q.kind == .closingQuote && (match later with
    | [] => true
    | u :: _ => u.kind.endsLine || u.kind.isQuote ||
        [.space, .glue, .wordJoiner, .closing, .closingParenthesis, .exclamation, .infixMark, .solidus,
          .zeroWidthSpace].contains u.kind)

/-- Quotation marks that clearly open or close keep to what they enclose. -/
def atQuote (p : Place) : Option Bool :=
  if opensQuote p.unspaced || closesQuote p.next p.later then some false else none

/-- Marks that do not start a line, and what follows spaces. -/
def afterSpaces (p : Place) : Option Bool :=
  if p.next.kind == .infixMark then some (p.last.kind == .space && p.secondNext == some .digit)
  else if p.next.kind == .nonstarter && (p.lastVisible == some .closing || p.lastVisible == some .closingParenthesis) then
    some false
  else if p.next.kind == .dash && p.lastVisible == some .dash then some false
  else if p.last.kind == .space then some true
  else none

/-- Quotation marks keep to both neighbours, unless these are East Asian. -/
def besideQuote (p : Place) : Option Bool :=
  if p.next.kind.isQuote && p.next.kind != .openingQuote then some false
  else if p.last.kind.isQuote && p.last.kind != .closingQuote then some false
  else if p.next.kind.isQuote && ! (isEastAsian p.last.base && p.later.head?.any (isEastAsian ·.base)) then some false
  else if p.last.kind.isQuote && ! (isEastAsian p.next.base && p.earlier.head?.any (isEastAsian ·.base)) then some false
  else none

/-- A line may end beside an object. -/
def atObject (p : Place) : Option Bool :=
  if p.last.kind == .contingent || p.next.kind == .contingent then some true else none

/-- What the first of these rules that applies says. -/
def decide? (p : Place) : Option Bool :=
  [atLineEnd, atSpace, atGlue, atBracket, atQuote, afterSpaces, besideQuote, atObject].findSome? (· p)

/-! ## Rules that keep clusters together -/

/-- Two classes that keep together. -/
def keepsPair (a b : BreakClass) : Bool :=
  b == .afterBreak || b.isHyphen || b == .nonstarter || a == .beforeBreak || b == .ellipsis ||
    (a == .solidus && b == .hebrewLetter) ||
    (a.isLetter && (b.isLetter || b == .digit || b.isNumberSign)) ||
    (a == .digit && (b.isLetter || b == .digit)) ||
    (a == .before && (b.isIdeograph || b.isHangul)) || ((a.isIdeograph || a.isHangul) && b == .after) ||
    (a.isNumberSign && (b.isLetter || b == .digit)) ||
    ((a == .hyphen || a == .infixMark) && b == .digit) || (a == .infixMark && b.isLetter) ||
    (a == .emojiBase && b == .skinTone)

/-- Two parts of one Hangul syllable. -/
def keepsSyllable (a b : BreakClass) : Bool :=
  (a == .leadingJamo && (b == .leadingJamo || b == .vowelJamo || b == .openSyllable || b == .closedSyllable)) ||
    ((a == .vowelJamo || a == .openSyllable) && (b == .vowelJamo || b == .trailingJamo)) ||
    ((a == .trailingJamo || a == .closedSyllable) && b == .trailingJamo)

/-- A hyphen at the start of a word keeps to it, and one after a Hebrew letter to what follows. -/
def keepsHyphen (p : Place) : Bool :=
  p.last.kind.isHyphen &&
    ((p.next.kind.isLetter && (match p.secondLast with
      | none => true
      | some k => k.endsLine || [.space, .zeroWidthSpace, .contingent, .glue].contains k)) ||
    (p.secondLast == some .hebrewLetter && p.next.kind != .hebrewLetter))

/-- A number keeps to its signs, and to the marks inside it. -/
def keepsNumber (p : Place) : Bool :=
  let bare := if p.last.kind == .closing || p.last.kind == .closingParenthesis then p.earlier else p.last :: p.earlier
  (p.next.kind.isNumberSign && endsWithNumber bare) ||
    (p.next.kind == .digit && endsWithNumber (p.last :: p.earlier)) ||
    (p.last.kind.isNumberSign && p.next.kind == .opening &&
      (p.secondNext == some .digit || (p.later.take 2).map (·.kind) == [.infixMark, .digit]))

/-- Two parts of one syllable of a Brahmic script. -/
def keepsAksara (p : Place) : Bool :=
  (p.last.kind == .aksaraPrefix && p.next.isAksara) ||
    (p.last.isAksara && (p.next.kind == .finalVirama || p.next.kind == .virama)) ||
    (p.last.kind == .virama && p.earlier.head?.any (·.isAksara) && (p.next.kind == .aksara || p.next.base == '\u25cc')) ||
    (p.last.isAksara && p.next.isAksara && p.secondNext == some .finalVirama)

/-- A bracket keeps to a word beside it, unless it is East Asian. -/
def keepsBracket (p : Place) : Bool :=
  ((p.last.kind.isLetter || p.last.kind == .digit) && p.next.kind == .opening && ! isEastAsian p.next.base) ||
    (p.last.kind == .closingParenthesis && ! isEastAsian p.last.base && (p.next.kind.isLetter || p.next.kind == .digit))

/-- The halves of a flag keep together, and a skin tone to what is or may become a picture. -/
def keepsPicture (p : Place) : Bool :=
  (p.next.kind == .regional && ((p.last :: p.earlier).takeWhile (·.kind == .regional)).length % 2 == 1) ||
    (p.next.kind == .skinTone && reservedPictures.contains p.last.base)

/-- The clusters around the place keep together. -/
def keeps (p : Place) : Bool :=
  keepsPair p.last.kind p.next.kind || keepsSyllable p.last.kind p.next.kind || p.keepsHyphen || p.keepsNumber ||
    p.keepsAksara || p.keepsBracket || p.keepsPicture

/-- A line may end at the place. -/
def mayEnd (p : Place) : Bool := p.decide?.getD (! p.keeps)

end Place

/-- The pieces of a text: `piece` is the one begun, and `earlier` and `last` are the clusters that have been passed. -/
def piecesFrom (earlier : List Cluster) (last : Cluster) (piece : List Char) : List Cluster → List (List Char)
  | [] => [piece]
  | u :: r =>
    if Place.mayEnd ⟨earlier, last, u, r⟩ then piece :: piecesFrom (last :: earlier) u u.text r
    else piecesFrom (last :: earlier) u (piece ++ u.text) r

/-- The pieces of a text between the places where a line may end. -/
def pieces (s : List Char) : List (List Char) :=
  match Cluster.ofText s with
  | [] => []
  | u :: r => piecesFrom [] u u.text r

end PaymentDesk.Text
