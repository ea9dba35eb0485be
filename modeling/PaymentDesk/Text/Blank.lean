/-!
# Blank characters, trimming and words

A character is blank when it has the Unicode property `White_Space` (`isBlank`). On top of it: `trim` removes blanks at
both ends, `words` lists the maximal runs without blanks, and `oneLine` joins these runs by single spaces.
-/

namespace PaymentDesk.Text

/-- The characters with the property `White_Space`. -/
def isBlank (c : Char) : Bool :=
  let n := c.toNat
  (9 ≤ n && n ≤ 13) || n == 0x20 || n == 0x85 || n == 0xA0 || n == 0x1680 || (0x2000 ≤ n && n ≤ 0x200A) ||
    n == 0x2028 || n == 0x2029 || n == 0x202F || n == 0x205F || n == 0x3000

/-! ## Trimming -/

/-- The text from its first character that is not blank. -/
def trimStart (s : List Char) : List Char := s.dropWhile isBlank

/-- The text up to its last character that is not blank. -/
def trimEnd (s : List Char) : List Char := (s.reverse.dropWhile isBlank).reverse

/-- The text without the blanks at its two ends. -/
def trim (s : List Char) : List Char := trimEnd (trimStart s)

/-! ## Words -/

/-- No word can go on into this text: it is empty or starts with a blank. -/
def startsBlank : List Char → Bool
  | [] => true
  | c :: _ => isBlank c

/-- The maximal runs of characters that are not blank, in order. -/
def words : List Char → List (List Char)
  | [] => []
  | c :: r =>
    if isBlank c then words r
    else match startsBlank r, words r with
      | false, w :: ws => (c :: w) :: ws
      | _, ws => [c] :: ws

/-- The words of a text, joined by single spaces. -/
def oneLine (s : List Char) : List Char := [' '].intercalate (words s)

end PaymentDesk.Text
