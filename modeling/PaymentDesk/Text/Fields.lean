import PaymentDesk.Text.Digits

/-!
# Fields, and tables of characters

Separators cut a text into fields, which may be empty: there is always one more field than there are separators
(`length_fields`), and a text without separators is one field (`fields_eq_singleton`).

A set of characters is written as a text of hexadecimal ranges such as `30-39 5F`, separated by spaces or line ends, in
ascending order. `CodePoints.ofText` reads it once and `CodePoints.contains` looks a character up.
-/

namespace PaymentDesk.Text

/-! ## Fields -/

/-- The parts of a text between the characters that satisfy `p`. -/
def fields (p : Char → Bool) : List Char → List (List Char)
  | [] => [[]]
  | c :: r =>
    if p c then [] :: fields p r
    else match fields p r with
      | f :: fs => (c :: f) :: fs
      | [] => [[c]]

theorem length_fields (p : Char → Bool) (s : List Char) : (fields p s).length = s.countP p + 1 := by
  induction s with
  | nil => rfl
  | cons c r ih =>
    simp only [fields, List.countP_cons]
    split
    · simp [ih]
    · next h =>
      cases hr : fields p r with
      | nil => simp [hr] at ih
      | cons f fs => simpa [hr] using ih

theorem fields_eq_singleton {p : Char → Bool} {s : List Char} (h : ∀ c ∈ s, p c = false) : fields p s = [s] := by
  induction s with
  | nil => rfl
  | cons c r ih =>
    have hr := ih fun d hd => h d (List.mem_cons_of_mem c hd)
    simp [fields, h c List.mem_cons_self, hr]

/-! ## Sets of characters -/

/-- A set of code points as ranges, both ends included. -/
structure CodePoints where
  ranges : Array (Nat × Nat)

namespace CodePoints

/-- A range such as `30-39`, or a single code point. -/
def range (s : List Char) : Nat × Nat :=
  match fields (· == '-') s with
  | [a, b] => (Hexadecimal.value a, Hexadecimal.value b)
  | _ => (Hexadecimal.value s, Hexadecimal.value s)

/-- The blocks of a table: what stands between spaces and line ends. -/
def entries (s : List Char) : List (List Char) :=
  (fields (fun c => c == ' ' || c == '\n') s).filter (! ·.isEmpty)

/-- The set that a text of ranges describes. -/
def ofText (s : String) : CodePoints := ⟨((entries s.toList).map range).toArray⟩

/-- A character belongs to the set. -/
def contains (s : CodePoints) (c : Char) : Bool := s.ranges.any fun r => r.1 ≤ c.toNat && c.toNat ≤ r.2

end CodePoints

end PaymentDesk.Text
