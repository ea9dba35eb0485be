import PaymentDesk.Proofs.Text.Trim
import PaymentDesk.Text.Digits

/-!
# Texts in one line

A text is unbroken when it holds no line end. Words hold no blanks, and so no line ends: what is joined from the words
of a text is unbroken, whatever the text was (`unbroken_oneLine`).
-/

namespace PaymentDesk.Text

/-- A text without line ends. -/
def Unbroken (s : List Char) : Prop := '\n' ∉ s

instance (s : List Char) : Decidable (Unbroken s) := inferInstanceAs (Decidable ('\n' ∉ s))

theorem Unbroken.append {x y : List Char} (hx : Unbroken x) (hy : Unbroken y) : Unbroken (x ++ y) := fun h =>
  (List.mem_append.mp h).elim hx hy

theorem unbroken_nil : Unbroken [] := List.not_mem_nil

theorem unbroken_of_forall {s : List Char} (h : ∀ c ∈ s, c ≠ '\n') : Unbroken s := fun hmem => h '\n' hmem rfl

/-! ## Joined texts -/

/-- Joined texts hold what the texts hold, and what stands between them. -/
theorem of_mem_intercalate {sep : List Char} {ls : List (List Char)} {c : Char} (h : c ∈ sep.intercalate ls) :
    c ∈ sep ∨ ∃ l ∈ ls, c ∈ l := by
  induction ls with
  | nil => cases h
  | cons l r ih =>
    cases r with
    | nil =>
      rw [List.intercalate_singleton] at h
      exact .inr ⟨l, List.mem_cons_self, h⟩
    | cons m r =>
      rw [List.intercalate_cons_cons, List.mem_append, List.mem_append] at h
      rcases h with (h | h) | h
      · exact .inr ⟨l, List.mem_cons_self, h⟩
      · exact .inl h
      · refine (ih h).imp id ?_
        rintro ⟨k, hk, hc⟩
        exact ⟨k, List.mem_cons_of_mem l hk, hc⟩

/-! ## Numbers and words -/

theorem Decimal.unbroken_ofNat (n : Nat) : Unbroken (ofNat n) := by
  refine unbroken_of_forall ?_
  rintro c hc rfl
  have hdigit := Nat.isDigit_of_mem_toDigits (by decide) (by decide) hc
  cases hdigit

theorem not_isBlank_of_mem_words {s l : List Char} (h : l ∈ words s) : ∀ c ∈ l, isBlank c = false := by
  induction s generalizing l with
  | nil => cases h
  | cons d r ih =>
    rw [words] at h
    split at h
    · exact ih h
    · next hd =>
      rw [Bool.not_eq_true] at hd
      split at h
      · next m ms _ hms =>
        rcases List.mem_cons.mp h with rfl | h
        · exact List.forall_mem_cons.mpr ⟨hd, ih (hms ▸ List.mem_cons_self)⟩
        · exact ih (hms ▸ List.mem_cons_of_mem m h)
      · rcases List.mem_cons.mp h with rfl | h
        · exact List.forall_mem_singleton.mpr hd
        · exact ih h

/-- **Words in one line.** -/
theorem unbroken_oneLine (s : List Char) : Unbroken (oneLine s) := by
  refine unbroken_of_forall ?_
  rintro c hc rfl
  rcases of_mem_intercalate hc with hsep | ⟨l, hl, hc⟩
  · exact absurd hsep (by decide)
  · cases not_isBlank_of_mem_words hl '\n' hc

end PaymentDesk.Text
