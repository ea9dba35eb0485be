import PaymentDesk.Json.Printer
import PaymentDesk.Json.Reader

/-!
# Values with blanks between the tokens

`Blanks` says which blanks stand between the tokens of a value, and `spaced` writes a value with them. Compact text and
laid out text are two cases of it (`compact_eq`, `layout_eq`).
-/

namespace PaymentDesk.Json

/-- The blanks before an item or a closing bracket, inside so many arrays and objects, and those behind a colon. -/
structure Blanks where
  gap : Nat → List Char
  afterColon : List Char
  gap_blank : ∀ depth, ∀ c ∈ gap depth, isSpace c = true
  afterColon_blank : ∀ c ∈ afterColon, isSpace c = true

/-- No blanks. -/
def Blanks.none : Blanks where
  gap _ := []
  afterColon := []
  gap_blank _ := nofun
  afterColon_blank := nofun

/-- Every item and every entry on a line of its own. -/
def Blanks.lines : Blanks where
  gap := newLine
  afterColon := [' ']
  gap_blank depth c hc := by
    rcases List.mem_cons.mp hc with rfl | hc
    · rfl
    · rw [List.eq_of_mem_replicate hc]
      rfl
  afterColon_blank c hc := by
    rw [List.mem_singleton.mp hc]
    rfl

variable (b : Blanks)

mutual

/-- A value written with blanks, inside `depth` arrays and objects. -/
def spaced (depth : Nat) : Value → List Char
  | .array (v :: r) => '[' :: (b.gap (depth + 1) ++ (spaced (depth + 1) v ++ spacedItems depth r))
  | .object ((k, v) :: r) => '\x7b' :: (b.gap (depth + 1) ++
    (quote k ++ ':' :: (b.afterColon ++ (spaced (depth + 1) v ++ spacedEntries depth r))))
  | .array [] => ['[', ']']
  | .object [] => ['\x7b', '\x7d']
  | .null => "null".toList
  | .bool t => boolText t
  | .number n => n.text
  | .string s => quote s

/-- The items of an array after its first, up to the closing bracket. -/
def spacedItems (depth : Nat) : List Value → List Char
  | [] => b.gap depth ++ [']']
  | v :: r => ',' :: (b.gap (depth + 1) ++ (spaced (depth + 1) v ++ spacedItems depth r))

/-- The entries of an object after its first, up to the closing brace. -/
def spacedEntries (depth : Nat) : List (List Char × Value) → List Char
  | [] => b.gap depth ++ ['\x7d']
  | (k, v) :: r => ',' :: (b.gap (depth + 1) ++
    (quote k ++ ':' :: (b.afterColon ++ (spaced (depth + 1) v ++ spacedEntries depth r))))

end

/-! ## The two forms -/

mutual

/-- **Compact text has no blanks.** -/
theorem compact_eq (depth : Nat) : ∀ v, compact v = spaced .none depth v
  | .null | .bool _ | .number _ | .string _ | .array [] | .object [] => rfl
  | .array (v :: r) => by
    rw [compact, spaced, compact_eq (depth + 1) v, compactItems_eq depth r]
    rfl
  | .object ((k, v) :: r) => by
    rw [compact, spaced, compact_eq (depth + 1) v, compactEntries_eq depth r]
    rfl

theorem compactItems_eq (depth : Nat) : ∀ r, compactItems r = spacedItems .none depth r
  | [] => rfl
  | v :: r => by
    rw [compactItems, spacedItems, compact_eq (depth + 1) v, compactItems_eq depth r]
    rfl

theorem compactEntries_eq (depth : Nat) : ∀ r, compactEntries r = spacedEntries .none depth r
  | [] => rfl
  | (k, v) :: r => by
    rw [compactEntries, spacedEntries, compact_eq (depth + 1) v, compactEntries_eq depth r]
    rfl

end

mutual

/-- **Laid out text has the blanks of its lines.** -/
theorem layout_eq (depth : Nat) : ∀ v, layout depth v = spaced .lines depth v
  | .null | .bool _ | .number _ | .string _ | .array [] | .object [] => rfl
  | .array (v :: r) => by
    rw [layout, spaced, layout_eq (depth + 1) v, layoutItems_eq depth r, List.append_assoc]
    rfl
  | .object ((k, v) :: r) => by
    rw [layout, spaced, layout_eq (depth + 1) v, layoutEntries_eq depth r]
    simp [Blanks.lines]

theorem layoutItems_eq (depth : Nat) : ∀ r, layoutItems depth r = spacedItems .lines depth r
  | [] => rfl
  | v :: r => by
    rw [layoutItems, spacedItems, layout_eq (depth + 1) v, layoutItems_eq depth r, List.append_assoc]
    rfl

theorem layoutEntries_eq (depth : Nat) : ∀ r, layoutEntries depth r = spacedEntries .lines depth r
  | [] => rfl
  | (k, v) :: r => by
    rw [layoutEntries, spacedEntries, layout_eq (depth + 1) v, layoutEntries_eq depth r]
    simp [Blanks.lines]

end

end PaymentDesk.Json
