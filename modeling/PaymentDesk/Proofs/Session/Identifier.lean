import PaymentDesk.Session

/-!
# Accepted identifiers

An identifier is an answer that is neither missing nor empty and holds nothing that would end a segment of a path
(`of_identifier`, `free_of_identifier`, `not_twoDots_of_identifier`).
-/

namespace PaymentDesk

open Text

/-- Two periods next to each other. -/
theorem hasTwoDots_iff {s : List Char} : hasTwoDots s = true ↔ ['.', '.'] <:+: s := by
  induction s using hasTwoDots.induct with
  | case1 r => exact iff_of_true rfl ⟨[], r, rfl⟩
  | case2 c r h ih =>
    have first : ¬ ['.', '.'] <+: c :: r := by
      rintro ⟨t, ht⟩
      cases ht
      exact h t rfl rfl
    rw [hasTwoDots, ih, List.infix_cons_iff]
    · exact ⟨Or.inr, fun h => h.resolve_left first⟩
    · exact h
  | case3 => exact iff_of_false Bool.false_ne_true (by simp)

namespace Session

variable {label s id : List Char} (h : identifier label (some s) = .ok id)
include h

theorem of_identifier : id = s ∧ isPathSegment id = true := by
  cases s with
  | nil => cases h
  | cons c r =>
    simp only [identifier] at h
    split at h
    · next hs =>
      cases h
      exact ⟨rfl, hs⟩
    · cases h

theorem ne_nil_of_identifier : id ≠ [] := by
  obtain ⟨rfl, -⟩ := of_identifier h
  rintro rfl
  cases h

/-- What an identifier does not hold. -/
theorem free_of_identifier : ∀ c ∈ id, c ≠ '/' ∧ c ≠ '?' ∧ c ≠ '#' ∧ isBlank c = false := by
  obtain ⟨-, hs⟩ := of_identifier h
  intro c hc
  simp only [isPathSegment, Bool.and_eq_true, Bool.not_eq_true', List.any_eq_false, Bool.or_eq_true, beq_iff_eq,
    not_or] at hs
  obtain ⟨⟨hmarks, -⟩, hblank⟩ := hs
  exact ⟨(hmarks c hc).1.1, (hmarks c hc).1.2, (hmarks c hc).2, by simpa using hblank c hc⟩

theorem not_twoDots_of_identifier : ¬ ['.', '.'] <:+: id := by
  obtain ⟨-, hs⟩ := of_identifier h
  rw [← hasTwoDots_iff]
  simp only [isPathSegment, Bool.and_eq_true, Bool.not_eq_true'] at hs
  exact Bool.eq_false_iff.mp hs.1.2

end Session

end PaymentDesk
