import PaymentDesk.Text.Digits

/-!
# Numbers in decimal digits

A number is written with its last digit behind the digits of its tenth (`ofNat_of_le`), so that what is known of one
digit is known of them all by strong induction.

A text is read as a number below a bound exactly if it consists of digits, perhaps behind a `+`, that denote that number
(`read_eq_ok_iff`); zeros may stand in front. What is written denotes the number that it was written for (`value_ofNat`,
`int?_ofInt`), so that different numbers are written differently.
-/

namespace PaymentDesk.Text.Decimal

variable {n : Nat}

theorem digit?_digitChar {d : Nat} (h : d < 10) : digit? (Nat.digitChar d) = some d := by
  have all : ∀ d, d < 10 → digit? (Nat.digitChar d) = some d := by decide
  exact all d h

theorem ofNat_of_lt (h : n < 10) : ofNat n = [Nat.digitChar n] := Nat.toDigits_of_lt_base h

theorem ofNat_of_le (h : 10 ≤ n) : ofNat n = ofNat (n / 10) ++ [Nat.digitChar (n % 10)] :=
  Nat.toDigits_of_base_le (by omega) h

theorem ofNat_ne_nil (n : Nat) : ofNat n ≠ [] := Nat.toDigits_ne_nil

/-- Nothing but digits is written. -/
theorem digit_of_mem_ofNat {c : Char} (hc : c ∈ ofNat n) : (digit? c).isSome = true := by
  induction n using Nat.strongRecOn with
  | ind n ih =>
    rcases Nat.lt_or_ge n 10 with hn | hn
    · rw [ofNat_of_lt hn, List.mem_singleton] at hc
      rw [hc, digit?_digitChar hn]
      rfl
    · rw [ofNat_of_le hn, List.mem_append, List.mem_singleton] at hc
      rcases hc with hc | hc
      · exact ih (n / 10) (by omega) hc
      · rw [hc, digit?_digitChar (Nat.mod_lt n (by omega))]
        rfl

/-- A digit is written first. -/
theorem exists_cons_ofNat (n : Nat) : ∃ c r, ofNat n = c :: r ∧ (digit? c).isSome = true := by
  obtain ⟨c, r, hcr⟩ := List.exists_cons_of_ne_nil (ofNat_ne_nil n)
  have hc : c ∈ ofNat n := by
    rw [hcr]
    exact List.mem_cons_self
  exact ⟨c, r, hcr, digit_of_mem_ofNat hc⟩

/-- No zero is written in front. -/
theorem head?_ofNat (h : 0 < n) : (ofNat n).head? ≠ some '0' := by
  induction n using Nat.strongRecOn with
  | ind n ih =>
    rcases Nat.lt_or_ge n 10 with hn | hn
    · rw [ofNat_of_lt hn, List.head?_cons]
      intro hc
      rw [Option.some.injEq, Nat.digitChar_eq_zero] at hc
      omega
    · have htenth := ih (n / 10) (by omega) (by omega)
      obtain ⟨c, r, hcr, -⟩ := exists_cons_ofNat (n / 10)
      rw [hcr] at htenth
      rw [ofNat_of_le hn, hcr]
      exact htenth

/-! ## Reading -/

/-- The number that digits denote. -/
def value (digits : List Char) : Nat := digits.foldl (fun n c => n * 10 + (c.toNat - '0'.toNat)) 0

/-- A text denotes a number below a bound: one or more digits, perhaps behind a `+`. -/
def Denotes (bound : Nat) (s : List Char) (n : Nat) : Prop :=
  ∃ digits, (s = digits ∨ s = '+' :: digits) ∧ digits ≠ [] ∧ (∀ c ∈ digits, '0' ≤ c ∧ c ≤ '9') ∧ value digits = n ∧
    n < bound

theorem le_foldl (digits : List Char) (acc : Nat) :
    acc ≤ digits.foldl (fun n c => n * 10 + (c.toNat - '0'.toNat)) acc := by
  induction digits generalizing acc with
  | nil => exact Nat.le_refl acc
  | cons c r ih =>
    have hstep : acc ≤ acc * 10 + (c.toNat - '0'.toNat) := by omega
    exact Nat.le_trans hstep (ih _)

/-- Digits are read on as long as the number stays below the bound, so that it is below it in the end. -/
theorem readFrom_eq_ok_iff {bound acc : Nat} {s : List Char} (hacc : acc < bound) :
    readFrom bound acc s = .ok n ↔ (∀ c ∈ s, '0' ≤ c ∧ c ≤ '9') ∧
      s.foldl (fun n c => n * 10 + (c.toNat - '0'.toNat)) acc = n ∧ n < bound := by
  induction s generalizing acc with
  | nil =>
    simp only [readFrom, List.foldl_nil, Except.ok.injEq]
    constructor
    · rintro rfl
      exact ⟨List.forall_mem_nil _, rfl, hacc⟩
    · exact fun h => h.2.1
  | cons c r ih =>
    rw [readFrom, digit?, List.forall_mem_cons, List.foldl_cons]
    by_cases hc : '0' ≤ c ∧ c ≤ '9'
    · rw [if_pos hc]
      simp only
      by_cases hlt : acc * 10 + (c.toNat - '0'.toNat) < bound
      · rw [if_pos hlt, ih hlt, and_iff_right hc]
      · rw [if_neg hlt]
        refine iff_of_false nofun ?_
        rintro ⟨-, hvalue, hn⟩
        have := le_foldl r (acc * 10 + (c.toNat - '0'.toNat))
        omega
    · rw [if_neg hc]
      exact iff_of_false nofun fun h => hc h.1.1

/-- **A number is read exactly from the texts that denote it.** -/
theorem read_eq_ok_iff {bound : Nat} (hbound : 0 < bound) {s : List Char} :
    read bound s = .ok n ↔ Denotes bound s n := by
  have hplus : ¬ ('0' ≤ '+' ∧ '+' ≤ '9') := by decide
  have hread (digits : List Char) : readFrom bound 0 digits = .ok n ↔
      (∀ c ∈ digits, '0' ≤ c ∧ c ≤ '9') ∧ value digits = n ∧ n < bound := readFrom_eq_ok_iff hbound
  rw [read.eq_def]
  split
  · refine iff_of_false nofun ?_
    rintro ⟨digits, rfl | h, hne, -⟩
    · exact hne rfl
    · cases h
  · refine iff_of_false nofun ?_
    rintro ⟨digits, rfl | h, hne, hdigits, -⟩
    · exact hplus (hdigits '+' List.mem_cons_self)
    · exact hne (List.cons.inj h).2.symm
  · next r hne =>
    rw [hread]
    constructor
    · exact fun h => ⟨r, .inr rfl, hne, h⟩
    · rintro ⟨digits, rfl | h, -, hdigits⟩
      · exact absurd (hdigits.1 '+' List.mem_cons_self) hplus
      · rw [(List.cons.inj h).2]
        exact hdigits
  · next hne _ hsign =>
    rw [hread]
    constructor
    · exact fun h => ⟨s, .inl rfl, hne, h⟩
    · rintro ⟨digits, rfl | h, -, hdigits⟩
      · exact hdigits
      · exact absurd h (hsign digits)

/-! ## Numbers that were written -/

theorem value_ofNat (n : Nat) : value (ofNat n) = n := by
  have hdigits : value (ofNat n) = Nat.ofDigitChars 10 (ofNat n) 0 := by
    simp only [value, Nat.ofDigitChars_eq_foldl, Nat.mul_comm]
  rw [hdigits]
  exact Nat.ofDigitChars_ten_toDigits

theorem ofNat_inj {m n : Nat} : ofNat m = ofNat n ↔ m = n := by
  constructor
  · intro h
    rw [← value_ofNat m, h, value_ofNat]
  · exact congrArg ofNat

/-- The number that a text of digits denotes. -/
def nat? (s : List Char) : Option Nat :=
  if s ≠ [] ∧ s.all (digit? · |>.isSome) then some (value s) else none

/-- The integer that a text of digits denotes, perhaps behind a `-`. -/
def int? : List Char → Option Int
  | '-' :: s => (nat? s).map fun n => -n
  | s => (nat? s).map fun n => n

theorem nat?_ofNat (n : Nat) : nat? (ofNat n) = some n := by
  have hall : (ofNat n).all (digit? · |>.isSome) := List.all_eq_true.mpr fun _ => digit_of_mem_ofNat
  rw [nat?, if_pos ⟨ofNat_ne_nil n, hall⟩, value_ofNat]

/-- **An integer is read back from its digits.** -/
theorem int?_ofInt (i : Int) : int? (ofInt i) = some i := by
  cases i with
  | ofNat n =>
    obtain ⟨c, r, hcr, hc⟩ := exists_cons_ofNat n
    have hsign : int? (ofNat n) = (nat? (ofNat n)).map fun n => (n : Int) := by
      rw [hcr, int?.eq_def]
      split
      · next h =>
        rw [(List.cons.inj h).1] at hc
        cases hc
      · rfl
    rw [ofInt, hsign, nat?_ofNat]
    rfl
  | negSucc n =>
    rw [ofInt, int?, nat?_ofNat]
    rfl

end PaymentDesk.Text.Decimal
