import PaymentDesk.Json.Printer
import PaymentDesk.Json.Reader
import PaymentDesk.Proofs.Text.Decimal

/-!
# Tokens read back

A text is read back as it was quoted, with what follows its closing quote (`string_quote`). The digits of an integer that
64 bits hold are read back as they were written, if no character follows that would belong to them (`number_ofNat`).
-/

namespace PaymentDesk.Json

open PaymentDesk.Text

/-- A fixed word is read to its end. -/
theorem word_append (w s : List Char) : word w (w ++ s) = .ok s := by
  induction w with
  | nil => rfl
  | cons c w ih => rw [List.cons_append, word, if_pos rfl, ih]

/-! ## Texts -/

theorem digit?_hexDigit {d : Nat} (h : d < 16) : Hexadecimal.digit? (hexDigit d) = some d := by
  have all : ∀ d, d < 16 → Hexadecimal.digit? (hexDigit d) = some d := by decide
  exact all d h

/-- A control character is read back from its four digits. -/
theorem unit_control {n : Nat} (h : n < 0x20) (rest : List Char) :
    unit ('0' :: '0' :: hexDigit (n / 16) :: hexDigit (n % 16) :: rest) = .ok (n, rest) := by
  have hzero : Hexadecimal.digit? '0' = some 0 := rfl
  have hhigh := digit?_hexDigit (d := n / 16) (by omega)
  have hlow := digit?_hexDigit (d := n % 16) (by omega)
  have hn : ((0 * 16 + 0) * 16 + n / 16) * 16 + n % 16 = n := by omega
  simp only [unit, fourDigits?, hzero, hhigh, hlow, hn]

/-- A character is written with a backslash, and read back from what follows it; or it is written as it is, and means
nothing else. -/
theorem escape_cases (c : Char) :
    (∃ e, escape c = '\\' :: e ∧ ∀ rest, escaped (e ++ rest) = .ok (c, rest)) ∨
      escape c = [c] ∧ c ≠ '"' ∧ c ≠ '\\' ∧ ¬ c.toNat < 0x20 := by
  unfold escape
  split
  · next h => exact .inl ⟨['"'], rfl, fun rest => by subst h; rfl⟩
  split
  · next h => exact .inl ⟨['\\'], rfl, fun rest => by subst h; rfl⟩
  split
  · next h => exact .inl ⟨['b'], rfl, fun rest => by subst h; rfl⟩
  split
  · next h => exact .inl ⟨['f'], rfl, fun rest => by subst h; rfl⟩
  split
  · next h => exact .inl ⟨['n'], rfl, fun rest => by subst h; rfl⟩
  split
  · next h => exact .inl ⟨['r'], rfl, fun rest => by subst h; rfl⟩
  split
  · next h => exact .inl ⟨['t'], rfl, fun rest => by subst h; rfl⟩
  split
  · next h =>
    refine .inl ⟨_, rfl, fun rest => ?_⟩
    have hlow : ¬ (0xDC00 ≤ c.toNat ∧ c.toNat ≤ 0xDFFF) := by omega
    have hhigh : ¬ (0xD800 ≤ c.toNat ∧ c.toNat ≤ 0xDBFF) := by omega
    simp only [List.cons_append, List.nil_append, escaped, unit_control h, bind, Except.bind, if_neg hlow, if_neg hhigh,
      Char.ofNat_toNat]
  · next hquote hbackslash _ _ _ _ _ hcontrol => exact .inr ⟨rfl, hquote, hbackslash, hcontrol⟩

/-- A quoted text is read back. -/
theorem stringFrom_escape (s acc rest : List Char) :
    stringFrom acc (s.flatMap escape ++ '"' :: rest) = .ok (acc.reverse ++ s, rest) := by
  induction s generalizing acc with
  | nil =>
    rw [List.flatMap_nil, List.nil_append, stringFrom, if_pos rfl, List.append_nil]
  | cons c s ih =>
    have htail := ih (c :: acc)
    rw [List.reverse_cons, List.append_assoc, List.singleton_append] at htail
    rw [List.flatMap_cons, List.append_assoc]
    rcases escape_cases c with ⟨e, he, hread⟩ | ⟨he, hquote, hbackslash, hcontrol⟩
    · rw [he, List.cons_append, stringFrom, if_neg (by decide), if_pos rfl]
      split
      · next herr =>
        rw [hread] at herr
        cases herr
      · next hok =>
        rw [hread] at hok
        cases hok
        exact htail
    · rw [he, List.singleton_append, stringFrom, if_neg hquote, if_neg hbackslash, if_neg hcontrol]
      exact htail

/-- **A quoted text is read back**, its opening quote apart. -/
theorem string_quote (s rest : List Char) : string (s.flatMap escape ++ '"' :: rest) = .ok (s, rest) :=
  stringFrom_escape s [] rest

/-! ## Numbers -/

/-- No character comes next that would belong to a number before it. -/
def EndsNumber (s : List Char) : Prop :=
  ∀ c, s.head? = some c → Decimal.digit? c = none ∧ c ≠ '.' ∧ c ≠ 'e' ∧ c ≠ 'E'

variable {rest : List Char} {bound n : Nat}

theorem EndsNumber.startsDigit (h : EndsNumber rest) : startsDigit rest = false := by
  cases rest with
  | nil => rfl
  | cons c r =>
    rw [Json.startsDigit, (h c rfl).1]
    rfl

theorem EndsNumber.afterInteger (h : EndsNumber rest) (negative : Bool) (n : Nat) :
    afterInteger negative n rest = .ok (integer negative n, rest) := by
  unfold Json.afterInteger
  split
  · exact absurd rfl (h _ rfl).2.1
  · exact absurd rfl (h _ rfl).2.2.1
  · exact absurd rfl (h _ rfl).2.2.2
  · rfl

theorem EndsNumber.accumulate (h : EndsNumber rest) (acc count : Nat) :
    accumulate bound acc count rest = (acc, count, rest) := by
  cases rest with
  | nil => rfl
  | cons c r => simp only [Json.accumulate, (h c rfl).1]

/-- Digits that are all taken in leave the rest to what follows them. -/
theorem accumulate_append {s : List Char} {acc count acc' count' : Nat}
    (h : accumulate bound acc count s = (acc', count', [])) (t : List Char) :
    accumulate bound acc count (s ++ t) = accumulate bound acc' count' t := by
  induction s generalizing acc count with
  | nil =>
    cases h
    rfl
  | cons c r ih =>
    simp only [List.cons_append, accumulate] at h ⊢
    split at h
    · cases h
    · split at h
      · next hlt =>
        rw [if_pos hlt]
        exact ih h
      · cases h

/-- The digits of a number below the bound are all taken in. -/
theorem accumulate_ofNat (h : n < bound) : ∃ count, accumulate bound 0 0 (Decimal.ofNat n) = (n, count, []) := by
  induction n using Nat.strongRecOn with
  | ind n ih =>
    rcases Nat.lt_or_ge n 10 with hn | hn
    · refine ⟨1, ?_⟩
      simp only [Decimal.ofNat_of_lt hn, accumulate, Decimal.digit?_digitChar hn]
      rw [if_pos (by omega), Nat.zero_mul, Nat.zero_add]
    · obtain ⟨count, htenth⟩ := ih (n / 10) (by omega) (by omega)
      refine ⟨count + 1, ?_⟩
      have hvalue : n / 10 * 10 + n % 10 = n := by omega
      rw [Decimal.ofNat_of_le hn, accumulate_append htenth]
      simp only [accumulate, Decimal.digit?_digitChar (Nat.mod_lt n (by omega : 0 < 10))]
      rw [hvalue, if_pos h]

/-- **The digits of an integer are read back.** -/
theorem number_ofNat (negative : Bool) (h : n < Nat.pow 2 64) (hrest : EndsNumber rest) :
    number negative (Decimal.ofNat n ++ rest) = .ok (integer negative n, rest) := by
  rcases Nat.eq_zero_or_pos n with rfl | hn
  · show number negative ('0' :: rest) = _
    rw [number, hrest.startsDigit, if_neg (by simp)]
    exact hrest.afterInteger negative 0
  · obtain ⟨count, hcount⟩ := accumulate_ofNat h
    have hdigits := accumulate_append hcount rest
    rw [hrest.accumulate] at hdigits
    obtain ⟨c, r, hcr, hc⟩ := Decimal.exists_cons_ofNat n
    have hstarts : startsDigit (Decimal.ofNat n ++ rest) = true := by
      rw [hcr]
      exact hc
    unfold number
    split
    · next heq => exact absurd (List.append_eq_nil_iff.mp heq).1 (Decimal.ofNat_ne_nil n)
    · next heq =>
      have hhead := Decimal.head?_ofNat hn
      rw [hcr] at heq hhead
      cases heq
      exact absurd rfl hhead
    · rw [hstarts, if_neg (by simp), hdigits]
      simp only [hrest.startsDigit, Bool.false_eq_true, if_false]
      exact hrest.afterInteger negative n

end PaymentDesk.Json
