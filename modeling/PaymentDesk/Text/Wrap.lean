import PaymentDesk.Text.Alphanumeric
import PaymentDesk.Text.Fields
import PaymentDesk.Text.LineBreak
import PaymentDesk.Text.Styled

/-!
# Filling lines

`wrap` breaks a text into lines of limited width. A line takes as many words as fit, counted without the spaces at their
ends; a word that fits no line is broken anywhere. A hyphen ends a word only between letters or digits. The first line
and the others have indents of their own. Escape sequences stay where they are and take no columns.
-/

namespace PaymentDesk.Text

/-- A word and the spaces after it. -/
structure Word where
  text : List Char
  spaces : Nat
  deriving DecidableEq, Repr

namespace Word

/-- The number of columns of a text. -/
def width (s : List Char) : Nat := (visible s).foldl (fun n c => n + columns c) 0

/-- A piece of text as a word. -/
def ofPiece (s : List Char) : Word :=
  let text := (s.reverse.dropWhile (· == ' ')).reverse
  ⟨text, s.length - text.length⟩

/-! ## Pieces -/

/-- A piece ends with a hyphen, which may be a soft one. -/
def endsWithHyphen (piece : List Char) : Bool := piece.getLast? == some '-' || piece.getLast? == some '\u00ad'

/-- Puts a piece in front of others, joining it to the first of them if it ends with a hyphen. -/
def addPiece (piece : List Char) (rest : List (List Char)) : List (List Char) :=
  match rest with
  | p :: r => if endsWithHyphen piece then (piece ++ p) :: r else piece :: p :: r
  | [] => [piece]

/-- Pieces joined where the place between them is behind a hyphen. The last place is no better: where the text ends with
a hyphen, the last two pieces are one. -/
def joinAtHyphens (pieces : List (List Char)) : List (List Char) :=
  match (pieces.foldr addPiece []).reverse with
  | q :: p :: r => if endsWithHyphen q then ((p ++ q) :: r).reverse else (q :: p :: r).reverse
  | l => l

/-- The pieces of visible text as they stand among escape sequences; `behind` are the sequences at the end. -/
def restore (behind : List Char) : List (List Char) → List Glyph → List (List Char)
  | [], _ => if behind.isEmpty then [] else [behind]
  | [_], glyphs => [glyphs.flatMap (·.text) ++ behind]
  | p :: r, glyphs => (glyphs.take p.length).flatMap (·.text) :: restore behind r (glyphs.drop p.length)

/-- The pieces of a text that end where a word may end. -/
def piecesOf (s : List Char) : List (List Char) :=
  let (glyphs, behind) := Glyph.ofText s
  restore behind (joinAtHyphens (pieces (glyphs.map (·.char)))) glyphs

/-! ## Words -/

/-- The text of a word cut behind the hyphens inside it. -/
def cutAtHyphens (piece : List Char) : List Char → List (List Char)
  | [] => [piece.reverse]
  | '-' :: c :: r =>
    if piece.head?.any isAlphanumeric && isAlphanumeric c then ('-' :: piece).reverse :: cutAtHyphens [] (c :: r)
    else cutAtHyphens ('-' :: piece) (c :: r)
  | c :: r => cutAtHyphens (c :: piece) r

/-- A text cut into parts that are at most `limit` wide. -/
def cutAtWidth (limit : Nat) (reading : Reading) (piece : List Char) (used : Nat) : List Char → List (List Char)
  | [] => [piece.reverse]
  | c :: r =>
    let more := if reading.shows c then columns c else 0
    if reading.shows c ∧ 0 < used ∧ limit < used + more then
      piece.reverse :: cutAtWidth limit (reading.next c) [c] more r
    else cutAtWidth limit (reading.next c) (c :: piece) (used + more) r

/-- The parts of a word; the last one keeps the spaces. -/
def withSpaces (spaces : Nat) : List (List Char) → List Word
  | [] => []
  | [t] => [⟨t, spaces⟩]
  | t :: r => ⟨t, 0⟩ :: withSpaces spaces r

/-- The words of a text, none of them wider than `limit`. -/
def ofText (limit : Nat) (s : List Char) : List Word :=
  let words := (piecesOf s).map ofPiece
  let split := words.flatMap fun w => withSpaces w.spaces (cutAtHyphens [] w.text)
  split.flatMap fun w => withSpaces w.spaces (cutAtWidth limit .text [] 0 w.text)

end Word

/-! ## Lines -/

/-- Fills lines with words: `line` holds the words of the line being filled, in reverse, and `used` its columns. -/
def fill (limit : Nat) (line : List Word) (used : Nat) : List Word → List (List Word)
  | [] => [line.reverse]
  | w :: r =>
    if limit < used + Word.width w.text ∧ ! line.isEmpty then
      line.reverse :: fill limit [w] (Word.width w.text + w.spaces) r
    else fill limit (w :: line) (used + Word.width w.text + w.spaces) r

/-- A line without the spaces at its end. -/
def lineText : List Word → List Char
  | [] => []
  | [w] => w.text
  | w :: r => w.text ++ List.replicate w.spaces ' ' ++ lineText r

/-- A text in lines of at most `width` columns; both indents are equally wide. Line ends in the text are kept. -/
def wrap (width : Nat) (first others : List Char) (s : List Char) : List Char :=
  let limit := width - Word.width others
  let lines := (fields (· == '\n') s).flatMap fun l => fill limit [⟨[], 0⟩] 0 (Word.ofText limit l)
  let indented := match lines.map lineText with
    | [] => [first]
    | l :: ls => (first ++ l) :: ls.map (others ++ ·)
  ['\n'].intercalate indented

end PaymentDesk.Text
