import PaymentDesk.Url.Parser

/-!
# Paths behind a slash

A path is walked along segment by segment (`enter`), and its last segment decides where the walk ends (`walk_append`,
`walk_single`). What is written behind a slash is cut into segments of its own (`fields_append`).
-/

namespace PaymentDesk

namespace Text

/-- A separator cuts a text in two. -/
theorem fields_append {p : Char → Bool} {c : Char} (hc : p c = true) (y : List Char) :
    ∀ x : List Char, fields p (x ++ c :: y) = fields p x ++ fields p y
  | [] => by simp [fields, hc]
  | d :: x => by
    have ih := fields_append hc y x
    rw [List.cons_append, fields, fields, ih]
    split
    · rfl
    · cases hx : fields p x with
      | nil => simpa [hx] using length_fields p x
      | cons f fs => rfl

theorem fields_ne_nil (p : Char → Bool) (s : List Char) : fields p s ≠ [] := by
  intro h
  simpa [h] using length_fields p s

end Text

namespace Url

open Text

/-- One step along a segment that is not the last one, at a place given by its segments in reverse. -/
def enter (above : List (List Char)) (s : List Char) : List (List Char) :=
  if isDoubleDot s then above.drop 1
  else if isSingleDot s then above
  else Percent.encode Percent.inPath s :: above

/-- A segment with a name of its own: it is neither empty nor stands for the same place or the place above. -/
def isName (s : List Char) : Bool := ! s.isEmpty && ! isSingleDot s && ! isDoubleDot s

theorem walk_cons (above : List (List Char)) (s : List Char) {r : List (List Char)} (hr : r ≠ []) :
    walk above (s :: r) = walk (enter above s) r := by
  cases r with
  | nil => exact absurd rfl hr
  | cons t r =>
    rw [walk, enter]
    · split
      · rfl
      · split <;> rfl
    · exact List.cons_ne_nil t r

/-- A walk along many segments goes on from where the first of them lead. -/
theorem walk_append (qs : List (List Char)) (hq : qs ≠ []) : ∀ (ls above : List (List Char)),
    walk above (ls ++ qs) = walk (ls.foldl enter above) qs
  | [], _ => rfl
  | s :: ls, above => by
    rw [List.cons_append, walk_cons above s (by simp [hq]), walk_append qs hq ls, List.foldl_cons]

/-- The last segment is always there, be it empty. -/
theorem walk_single (above : List (List Char)) (s : List Char) : walk above [s] =
    if isDoubleDot s then (above.drop 1).reverse ++ [[]]
    else if isSingleDot s then above.reverse ++ [[]]
    else above.reverse ++ [Percent.encode Percent.inPath s] := by
  simp only [walk, List.reverse_cons]

theorem walk_nil (above : List (List Char)) : walk above [[]] = above.reverse ++ [[]] := by
  rw [walk_single]
  rfl

end Url

end PaymentDesk
