import PaymentDesk.Proofs.Text.Utf8

/-!
# The order of texts

Texts are ordered by their code points, character by character. **Their bytes are ordered in the same way**
(`encode_lt_encode`): of two characters the smaller one has the smaller byte where they differ first, be they of one
length or not (`encodeChar_lt`).
-/

namespace PaymentDesk.Text.Utf8

/-- The bytes of a character, by their number. -/
theorem encodeChar_cases (c : Char) :
    (c.toNat < 0x80 ∧ encodeChar c = [UInt8.ofNat c.toNat]) ∨
    (0x80 ≤ c.toNat ∧ c.toNat < 0x800 ∧
      encodeChar c = [UInt8.ofNat (0xC0 + c.toNat / 64), UInt8.ofNat (0x80 + c.toNat % 64)]) ∨
    (0x800 ≤ c.toNat ∧ c.toNat < 0x10000 ∧ encodeChar c = [UInt8.ofNat (0xE0 + c.toNat / 4096),
      UInt8.ofNat (0x80 + c.toNat / 64 % 64), UInt8.ofNat (0x80 + c.toNat % 64)]) ∨
    (0x10000 ≤ c.toNat ∧ c.toNat < 0x110000 ∧ encodeChar c = [UInt8.ofNat (0xF0 + c.toNat / 262144),
      UInt8.ofNat (0x80 + c.toNat / 4096 % 64), UInt8.ofNat (0x80 + c.toNat / 64 % 64),
      UInt8.ofNat (0x80 + c.toNat % 64)]) := by
  have hvalid := toNat_valid c
  rw [encodeChar]
  by_cases h₁ : c.toNat < 0x80
  · exact .inl ⟨h₁, if_pos h₁⟩
  by_cases h₂ : c.toNat < 0x800
  · exact .inr (.inl ⟨by omega, h₂, by simp only [if_neg h₁, if_pos h₂]⟩)
  by_cases h₃ : c.toNat < 0x10000
  · exact .inr (.inr (.inl ⟨by omega, h₃, by simp only [if_neg h₁, if_neg h₂, if_pos h₃]⟩))
  · exact .inr (.inr (.inr ⟨by omega, by omega, by simp only [if_neg h₁, if_neg h₂, if_neg h₃]⟩))

theorem cons_byte_lt {x y : Nat} (hx : x < 256) (hy : y < 256) {s t : List UInt8} :
    UInt8.ofNat x :: s < UInt8.ofNat y :: t ↔ x < y ∨ x = y ∧ s < t := by
  rw [List.cons_lt_cons_iff, UInt8.lt_iff_toNat_lt, ← UInt8.toNat_inj, toNat_byte hx, toNat_byte hy]

/-- **The smaller of two characters has the smaller bytes**, whatever follows them. -/
theorem encodeChar_lt {c d : Char} (h : c < d) (s t : List UInt8) : encodeChar c ++ s < encodeChar d ++ t := by
  have hlt : c.toNat < d.toNat := h
  rcases encodeChar_cases c with ⟨hc, ec⟩ | ⟨hc, hc', ec⟩ | ⟨hc, hc', ec⟩ | ⟨hc, hc', ec⟩ <;>
    rcases encodeChar_cases d with ⟨hd, ed⟩ | ⟨hd, hd', ed⟩ | ⟨hd, hd', ed⟩ | ⟨hd, hd', ed⟩ <;>
    rw [ec, ed] <;> simp (disch := omega) only [List.cons_append, List.nil_append, cons_byte_lt]
  all_goals omega

/-- **The bytes of texts are ordered as their code points are.** -/
theorem encode_lt_encode {s t : List Char} : encode s < encode t ↔ s < t := by
  have hmono : ∀ {s t : List Char}, s < t → encode s < encode t := by
    intro s t h
    induction s generalizing t with
    | nil =>
      obtain - | ⟨d, t⟩ := t
      · exact absurd h (List.lt_irrefl _)
      · obtain ⟨a, r, hd⟩ := List.exists_cons_of_ne_nil (encodeChar_ne_nil d)
        rw [encode_cons, hd]
        exact List.nil_lt_cons a _
    | cons c s ih =>
      obtain - | ⟨d, t⟩ := t
      · exact absurd h (List.not_lt_nil _)
      rw [encode_cons, encode_cons]
      rcases List.cons_lt_cons_iff.mp h with hlt | ⟨rfl, hlt⟩
      · exact encodeChar_lt hlt _ _
      · exact List.append_left_lt (ih hlt)
  refine ⟨fun h => ?_, hmono⟩
  -- texts that are not ordered so are ordered the other way round, or equal
  by_cases hst : s < t
  · exact hst
  by_cases hts : t < s
  · exact absurd (hmono hts) (List.lt_asymm h)
  · have heq : s = t := List.le_antisymm (List.not_lt.mp hts) (List.not_lt.mp hst)
    exact absurd (heq ▸ h) (List.lt_irrefl _)

end PaymentDesk.Text.Utf8
