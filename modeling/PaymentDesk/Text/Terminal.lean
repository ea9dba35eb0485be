/-!
# Texts for terminals

A terminal takes part of a text as commands: control characters other than white space, and the sequences that start
with an escape character (`Expecting`). `plain` is what is left of a text when the commands are taken out, as for an
output that is no terminal.
-/

namespace PaymentDesk.Text.Terminal

/-- The character with which a command starts. -/
def escape : Char := '\x1b'

/-- A text that stands out on a terminal. -/
def bold (s : List Char) : List Char := escape :: "[1m".toList ++ s ++ escape :: "[0m".toList

/-- What comes next: text, or the rest of a command. -/
inductive Expecting where
  /-- Text. -/
  | text
  /-- The character after an escape character. -/
  | kind
  /-- The end of a short command. -/
  | last
  /-- The parameters or the end of a control sequence. -/
  | control
  /-- The parameters or the data of a device command. -/
  | device
  /-- The data of a device command, or a string. -/
  | data
  /-- The text of a command to the operating system. -/
  | system
  deriving DecidableEq, Repr

namespace Expecting

/-- What comes after a character that is no text. -/
def next (e : Expecting) (c : Char) : Expecting :=
  let n := c.toNat
  if c = escape then .kind
  else if n = 0x18 ∨ n = 0x1A then .text
  else match e with
    | .text => .text
    | .kind =>
      if c = '[' then .control
      else if c = ']' then .system
      else if c = 'P' then .device
      else if c = 'X' ∨ c = '^' ∨ c = '_' then .data
      else if 0x20 ≤ n ∧ n < 0x30 then .last
      else if 0x30 ≤ n ∧ n < 0x7F then .text
      else .kind
    | .last => if 0x30 ≤ n ∧ n < 0x7F then .text else .last
    | .control => if 0x40 ≤ n ∧ n < 0x7F then .text else .control
    | .device => if 0x40 ≤ n ∧ n < 0x7F then .data else .device
    | .data => .data
    | .system => if n = 7 then .text else .system

/-- White space inside a command is shown, and what follows it. -/
def breaksAt (e : Expecting) (c : Char) : Bool :=
  (e == .kind || e == .last || e == .control) && (c == '\t' || c == '\n' || c == '\x0c' || c == '\r')

end Expecting

/-- A character that is text and no command. -/
def isText (c : Char) : Bool :=
  (0x20 ≤ c.toNat && c.toNat != 0x7F) || c == '\t' || c == '\n' || c == '\x0c' || c == '\r'

/-- Goes on reading; `shown` tells that the character before was shown. -/
def plainFrom (shown : Bool) (e : Expecting) : List Char → List Char
  | [] => []
  | c :: r =>
    if isText c && (shown || e == .text || e.breaksAt c) then
      c :: plainFrom true (if c.toNat < 0x80 then e else .text) r
    else plainFrom false (e.next c) r

/-- A text without commands. -/
def plain (s : List Char) : List Char := plainFrom false .text s

end PaymentDesk.Text.Terminal
