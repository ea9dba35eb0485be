import PaymentDesk.Url.Domain.Label
import PaymentDesk.Url.Domain.Punycode

/-!
# Domains in ASCII

`Domain.toAscii?` brings a domain into the form in which it is looked up: its characters are folded and composed, and
each label that is not ASCII is written in Punycode behind `xn--`. A label that came in this form must be one that
folding would have left alone. A few ASCII characters may not be in the result.
-/

namespace PaymentDesk.Url.Domain

open Text

/-- All characters are ASCII. -/
def isAscii (s : List Char) : Bool := s.all fun c => c.toNat < 128

/-- The labels of a domain. -/
def labels (s : List Char) : List (List Char) := fields (· == '.') s

/-- The text after the mark of an encoded label. -/
def encodedPart? : List Char → Option (List Char)
  | 'x' :: 'n' :: '-' :: '-' :: r => some r
  | _ => none

/-- ASCII characters that a domain may not hold. -/
def isForbidden (c : Char) : Bool :=
  c.toNat ≤ 0x20 || c.toNat == 0x7F || "#/:<>?@[\\]^|%".toList.contains c

/-- A folded label in Unicode, if it is one that a domain may have. At most 2000 characters are decoded. -/
def labelText? (label : List Char) : Option (List Char) :=
  match encodedPart? label with
  | some r => if r.length ≤ 2000 then (Punycode.decode? r).filter isEncodedLabel else none
  | none => some label |>.filter isLabel

/-- A label in ASCII. At most 1000 characters are encoded. -/
def labelAscii? (label : List Char) : Option (List Char) :=
  if isAscii label then some label
  else if label.length ≤ 1000 then some ("xn--".toList ++ Punycode.encode label)
  else none

/-- The labels of a domain in Unicode, after folding. -/
def unicodeLabels? (s : List Char) : Option (List (List Char)) := do
  let folded ← fold s
  let texts ← (labels (compose folded)).mapM labelText?
  if texts.any (·.any isRightward) && ! texts.all keepsDirection then none else some texts

/-- A domain in ASCII, whatever characters it holds. -/
def ascii? (s : List Char) : Option (List Char) :=
  let small := s.map Char.toLower
  if isAscii s && (labels small).all (fun l => (encodedPart? l).isNone) then some small
  else do return ['.'].intercalate (← (← unicodeLabels? s).mapM labelAscii?)

/-- A domain in the form in which it is looked up. -/
def toAscii? (s : List Char) : Option (List Char) := (ascii? s).filter fun t => ! t.any isForbidden

end PaymentDesk.Url.Domain
