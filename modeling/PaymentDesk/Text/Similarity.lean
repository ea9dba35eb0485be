/-!
# Similar texts

The similarity of two texts is the mean of three shares: of the first and of the second text, the characters that match,
and of these the ones that stand in order. Characters match if they are equal and not too far apart. `mostSimilar?`
finds what was perhaps meant.
-/

namespace PaymentDesk.Text

/-- A share: a count of a positive count. -/
structure Share where
  num : Nat
  den : Nat
  deriving DecidableEq, Repr

/-- The first share is less than the second. -/
def Share.less (a b : Share) : Bool := a.num * b.den < b.num * a.den

/-- The place, not taken yet, of the first character equal to `c` from `lo` to below `hi`. -/
def findMatch (c : Char) (lo hi : Nat) (taken : List Nat) (b : List Char) : Option Nat :=
  (List.range b.length).find? fun j => lo ≤ j && j < hi && b[j]? == some c && ! taken.contains j

/-- The matching characters: the places in the first text and the places in the second that they match. -/
def matchPlaces (range : Nat) (b : List Char) : Nat → List Char → List Nat → List (Char × Nat)
  | _, [], _ => []
  | i, c :: r, taken =>
    match findMatch c (i - range) (i + range + 1) taken b with
    | some j => (c, j) :: matchPlaces range b (i + 1) r (j :: taken)
    | none => matchPlaces range b (i + 1) r taken

/-- The similarity of two texts. -/
def similarity (a b : List Char) : Share :=
  if a.isEmpty && b.isEmpty then ⟨1, 1⟩
  else
    let found := matchPlaces (max a.length b.length / 2 - 1) b 0 a []
    let m := found.length
    if m = 0 then ⟨0, 1⟩
    else
      let inOrder := (List.range b.length).filterMap fun j =>
        if found.any (·.2 == j) then b[j]? else none
      let moved := ((found.map (·.1)).zip inOrder).countP fun p => p.1 != p.2
      let t := moved / 2
      ⟨m * m * b.length + m * m * a.length + (m - t) * a.length * b.length, 3 * a.length * b.length * m⟩

/-- The candidate most similar to a text, the last of equal ones, if it is similar by more than seven tenths. -/
def mostSimilar? (s : List Char) (candidates : List (List Char)) : Option (List Char) :=
  let better := fun (best : Option (List Char × Share)) (c : List Char) =>
    let x := similarity s c
    if ! Share.less ⟨7, 10⟩ x then best
    else match best with
      | some (_, y) => if x.less y then best else some (c, x)
      | none => some (c, x)
  (candidates.foldl better none).map (·.1)

end PaymentDesk.Text
