/-!
# Styled texts

A text may hold escape sequences that style it on a terminal. They take no columns, so a text is seen as its visible
characters, each with the sequences in front of it (`Glyph`).
-/

namespace PaymentDesk.Text

/-- What is being read: text, or a part of an escape sequence. -/
inductive Reading where
  /-- Text. -/
  | text
  /-- The character after an escape character. -/
  | kind
  /-- A control sequence, which ends with a letter or a mark. -/
  | control
  /-- A command to the operating system, with its last character. -/
  | system (last : Char)
  deriving DecidableEq, Repr

namespace Reading

/-- The character is visible. -/
def shows (r : Reading) (c : Char) : Bool := r == .text && c != '\x1b'

/-- What is read after a character. -/
def next : Reading → Char → Reading
  | .text, c => if c = '\x1b' then .kind else .text
  | .kind, c => if c = '[' then .control else if c = ']' then .system c else .text
  | .control, c => if '\x40' ≤ c ∧ c ≤ '\x7e' then .text else .control
  | .system last, c => if c = '\x07' ∨ (c = '\\' ∧ last = '\x1b') then .text else .system c

end Reading

/-- A visible character with the escape sequences in front of it. -/
structure Glyph where
  sequences : List Char
  char : Char
  deriving DecidableEq, Repr

namespace Glyph

/-- A glyph as it stands in the text. -/
def text (g : Glyph) : List Char := g.sequences ++ [g.char]

/-- The glyphs of a text and the sequences behind the last one; `sequences` has been read since the last glyph. -/
def ofTextFrom (r : Reading) (sequences : List Char) : List Char → List Glyph × List Char
  | [] => ([], sequences)
  | c :: s =>
    if r.shows c then
      let (glyphs, rest) := ofTextFrom (r.next c) [] s
      (⟨sequences, c⟩ :: glyphs, rest)
    else ofTextFrom (r.next c) (sequences ++ [c]) s

/-- The glyphs of a text and the sequences behind the last one. -/
def ofText (s : List Char) : List Glyph × List Char := ofTextFrom .text [] s

end Glyph

/-- The visible characters of a text. -/
def visible (s : List Char) : List Char := (Glyph.ofText s).1.map (·.char)

end PaymentDesk.Text
