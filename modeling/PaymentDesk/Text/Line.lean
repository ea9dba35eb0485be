/-!
# Lines

A line ends after a terminator, which belongs to it; only the last line may lack one, and no line is empty
(`splitAfter`). Joining the lines gives the whole back (`flatten_splitAfter`).
-/

namespace PaymentDesk.Text

variable {α : Type}

/-- The pieces of a list, each but perhaps the last ending with its only element that satisfies `p`. -/
def splitAfter (p : α → Bool) : List α → List (List α)
  | [] => []
  | c :: r =>
    if p c then [c] :: splitAfter p r
    else match splitAfter p r with
      | [] => [[c]]
      | l :: ls => (c :: l) :: ls

/-- Nothing is lost and nothing moves. -/
theorem flatten_splitAfter (p : α → Bool) (s : List α) : (splitAfter p s).flatten = s := by
  induction s with
  | nil => rfl
  | cons c r ih =>
    simp only [splitAfter]
    split
    · simp [ih]
    · split
      · next h => rw [h] at ih; simp [← ih]
      · next h => rw [h] at ih; simp [← ih]

theorem splitAfter_ne_nil (p : α → Bool) {s : List α} (hs : s ≠ []) : splitAfter p s ≠ [] := by
  intro h
  have hflat := flatten_splitAfter p s
  rw [h] at hflat
  exact hs hflat.symm

/-- Where a piece ends, the rest is cut on its own. -/
theorem splitAfter_append_of_ended (p : α → Bool) {s : List α} (hs : ∀ c, s.getLast? = some c → p c = true) (t : List α) :
    splitAfter p (s ++ t) = splitAfter p s ++ splitAfter p t := by
  induction s with
  | nil => rfl
  | cons c r ih =>
    have hr (hne : r ≠ []) : splitAfter p (r ++ t) = splitAfter p r ++ splitAfter p t := by
      refine ih fun d hd => hs d ?_
      rw [List.getLast?_cons_of_ne_nil hne, hd]
    simp only [List.cons_append, splitAfter]
    split
    · by_cases hne : r = []
      · subst hne
        rfl
      · rw [hr hne]
        rfl
    · next hc =>
      have hne : r ≠ [] := by
        rintro rfl
        exact hc (hs c rfl)
      obtain ⟨l, ls, hl⟩ := List.exists_cons_of_ne_nil (splitAfter_ne_nil p hne)
      rw [hr hne, hl]
      rfl

/-- The lines of a text. -/
def lines (s : List Char) : List (List Char) := splitAfter (· == '\n') s

/-- The lines of a byte string, where only byte 10 ends a line. -/
def byteLines (s : List UInt8) : List (List UInt8) := splitAfter (· == 10) s

end PaymentDesk.Text
