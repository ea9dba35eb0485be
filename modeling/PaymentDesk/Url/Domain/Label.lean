import PaymentDesk.Url.Domain.Classes
import PaymentDesk.Url.Domain.Composition
import PaymentDesk.Url.Domain.Mapping

/-!
# Which labels a domain may have

A label must not start with a mark, its joiners must stand where they show (`joinersFit`), and in a domain with letters
written from right to left each label must keep to one direction (`keepsDirection`).
-/

namespace PaymentDesk.Url.Domain

/-- Combining marks with this class suppress the vowel of the letter before. -/
def isVirama (c : Char) : Bool := combiningClass c == 9

/-! ## Joiners -/

/-- The characters around a place join across it: `before` is the text before the place, in reverse. -/
def joinAcross (before after : List Char) : Bool :=
  let left := before.dropWhile joinsThrough.contains
  let right := after.dropWhile joinsThrough.contains
  (match left with
    | [] => false
    | c :: _ => joinsLeft.contains c || joinsBoth.contains c) &&
  (match right with
    | [] => false
    | c :: _ => joinsRight.contains c || joinsBoth.contains c)

/-- Every joiner stands after a virama, or, the non-joiner, between characters that would join. -/
def joinersFitFrom (before : List Char) : List Char → Bool
  | [] => true
  | c :: r =>
    let afterVirama := match before with
      | [] => false
      | b :: _ => isVirama b
    let fits :=
      if c == '\u200d' then afterVirama
      else if c == '\u200c' then afterVirama || joinAcross before r
      else true
    fits && joinersFitFrom (c :: before) r

/-- The joiners of a label stand where they show. -/
def joinersFit (label : List Char) : Bool := joinersFitFrom [] label

/-! ## Direction -/

/-- A character that makes a domain one with a direction from right to left. -/
def isRightward (c : Char) : Bool :=
  match direction c with
  | .right | .arabicLetter | .arabicNumber => true
  | _ => false

/-- The direction of the last character that has one. -/
def lastDirection (label : List Char) : Option Direction :=
  (label.reverse.map direction).find? (· != .mark)

/-- A label keeps to the direction of its first character. -/
def keepsDirection (label : List Char) : Bool :=
  let directions := label.map direction
  match directions with
  | [] => true
  | .right :: _ | .arabicLetter :: _ =>
    ! directions.contains .left &&
      (match lastDirection label with
        | some .right | some .arabicLetter | some .europeanNumber | some .arabicNumber => true
        | _ => false) &&
      ! (directions.contains .europeanNumber && directions.contains .arabicNumber)
  | .left :: _ =>
    directions.all (fun d => d != .right && d != .arabicLetter && d != .arabicNumber) &&
      (match lastDirection label with
        | some .left | some .europeanNumber => true
        | _ => false)
  | _ => false

/-! ## Labels -/

/-- A label that a domain may have, the direction apart. -/
def isLabel (label : List Char) : Bool :=
  (match label with
    | [] => true
    | c :: _ => ! marks.contains c) && joinersFit label

/-- A label that was written in ASCII: it needs that form, and folding and composing leave it alone. -/
def isEncodedLabel (label : List Char) : Bool :=
  label.any (fun c => 128 ≤ c.toNat) && label.all isStable && compose label == label && isLabel label

end PaymentDesk.Url.Domain
