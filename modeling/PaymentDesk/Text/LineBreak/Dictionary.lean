import PaymentDesk.Text.Fields
import PaymentDesk.Text.Styled

/-!
# Scripts written without spaces

In some scripts only a dictionary could tell where a word ends. There is none, so a line is not broken inside such a
stretch of text, and each stretch that would need a dictionary is complained about (`complaints`).
-/

namespace PaymentDesk.Text.Dictionary

/-- The characters of scripts written without spaces between the words. -/
def unspaced : CodePoints := .ofText
  "E01-E3A E40-E4E E81-E82 E84 E86-E8A E8C-EA3 EA5 EA7-EBD EC0-EC4 EC6 EC8-ECE EDC-EDF 1000-103F 1050-108F 109A-109F
1780-17D3 17D7 17DC-17DD 1950-196D 1970-1974 1980-19AB 19B0-19C9 19DE-19DF 1A20-1A5E 1A60-1A7C 1AA0-1AAD A9E0-A9EF
A9FA-A9FE AA60-AAC2 AADB-AADF 11700-1171A 1171D-1172B 1173A-1173B 1173F-11746"

/-- The script of a character, if there could be a dictionary for it. -/
def script? (c : Char) : Option (List Char) :=
  let n := c.toNat
  if 0xE01 ≤ n ∧ n ≤ 0xE7F then some "Thai".toList
  else if 0xE80 ≤ n ∧ n ≤ 0xEFF then some "Lao".toList
  else if (0x1000 ≤ n ∧ n ≤ 0x109F) ∨ (0xA9E0 ≤ n ∧ n ≤ 0xA9FF) ∨ (0xAA60 ≤ n ∧ n ≤ 0xAA7F) then some "Burmese".toList
  else if (0x1780 ≤ n ∧ n ≤ 0x17FF) ∨ (0x19E0 ≤ n ∧ n ≤ 0x19FF) then some "Khmer".toList
  else none

/-- The stretches of a text, of two characters at least, that have no spaces between their words. -/
def stretches (s : List Char) : List (List Char) :=
  (s.splitBy fun a b => unspaced.contains a && unspaced.contains b).filter (2 ≤ ·.length)

/-- The scripts for whose words a dictionary is missing, in the order of the text. -/
def missing (s : List Char) : List (List Char) :=
  (stretches s).flatMap fun stretch => ((stretch.map script?).splitBy (· == ·)).filterMap fun part => part.head?.join

/-- What is said about a text that is broken into lines. -/
def complaints (s : List Char) : List Char :=
  (fields (· == '\n') s).flatMap fun line => (missing (visible line)).flatMap fun script =>
    "ICU4X data error: No segmentation model for complex script: ".toList ++ script ++ ['\n']

end PaymentDesk.Text.Dictionary
