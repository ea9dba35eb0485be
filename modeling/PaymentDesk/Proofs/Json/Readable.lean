import PaymentDesk.Json.Reader
import PaymentDesk.Proofs.Json.Entries

/-!
# What documents are like that were read

A readable document has integers of 64 bits, objects whose keys ascend, and no more arrays and objects inside each other
than the reader allows (`Readable`). **Every document that is read is readable** (`readable_of_parse`).
-/

namespace PaymentDesk.Json

open PaymentDesk.Text

/-- The number is no integer, or 64 bits hold it. -/
def Number.Fits : Number → Prop
  | .int n => -(Nat.pow 2 63 : Nat) ≤ n ∧ n < (Nat.pow 2 64 : Nat)
  | .real _ => True

/-- Documents inside which at most `depth` arrays and objects are open at once. -/
inductive Readable : Nat → Value → Prop where
  | null (depth : Nat) : Readable depth .null
  | bool (depth : Nat) (b : Bool) : Readable depth (.bool b)
  | number (depth : Nat) {n : Number} (fits : n.Fits) : Readable depth (.number n)
  | string (depth : Nat) (s : List Char) : Readable depth (.string s)
  | array {depth : Nat} {items : List Value} (h : ∀ v ∈ items, Readable depth v) : Readable (depth + 1) (.array items)
  | object {depth : Nat} {entries : List (List Char × Value)} (ascending : Ascending entries)
    (h : ∀ e ∈ entries, Readable depth e.2) : Readable (depth + 1) (.object entries)

theorem Readable.sorted {depth : Nat} {v : Value} (h : Readable depth v) : Sorted v := by
  induction h with
  | null => exact .null
  | bool _ b => exact .bool b
  | number => exact .number _
  | string _ s => exact .string s
  | array h ih => exact .array ih
  | object ascending h ih => exact .object ascending ih

/-- Sorting leaves a readable document as it is. -/
theorem Readable.sortKeys_eq {depth : Nat} {v : Value} (h : Readable depth v) : sortKeys v = v := h.sorted.sortKeys_eq

section Steps

/-- A reader that goes on has read something. -/
theorem ok_of_bind {α β : Type} {x : Except Stop α} {f : α → Except Stop β} {b : β} (h : (x >>= f) = .ok b) :
    ∃ a, x = .ok a ∧ f a = .ok b := by
  cases x with
  | error stop => cases h
  | ok a => exact ⟨a, rfl, h⟩

/-! ## Numbers -/

variable {negative : Bool} {m : Nat} {e : Int} {s r : List Char} {n : Number}

theorem accumulate_lt {bound acc count : Nat} (h : acc < bound) (s : List Char) :
    (accumulate bound acc count s).1 < bound := by
  induction s generalizing acc count with
  | nil => exact h
  | cons c r ih =>
    rw [accumulate]
    split
    · exact h
    · split
      · next hlt => exact ih hlt
      · exact h

theorem fits_of_real (h : real negative m e s = .ok (n, r)) : n.Fits := by
  rw [real] at h
  split at h
  · cases h
  · cases h
    trivial

theorem fits_of_exponent (h : exponent negative m e s = .ok (n, r)) : n.Fits := by
  unfold exponent at h
  simp only at h
  -- whatever sign the exponent has
  split at h
  all_goals
    simp only at h
    split at h
    · cases h
    split at h
    · cases h
    split at h
    · exact fits_of_real h
    split at h
    · cases h
    · cases h
      trivial

theorem fits_of_scaled (h : scaled negative m e s = .ok (n, r)) : n.Fits := by
  unfold scaled at h
  split at h
  · exact fits_of_exponent h
  · exact fits_of_exponent h
  · exact fits_of_real h

theorem fits_of_fraction (h : fraction negative m e s = .ok (n, r)) : n.Fits := by
  rw [fraction] at h
  simp only at h
  split at h
  · exact fits_of_scaled h
  split at h
  · cases h
  · exact fits_of_scaled h

theorem fits_integer (negative : Bool) (h : m < Nat.pow 2 64) : (integer negative m).Fits := by
  have hsigned : Nat.pow 2 64 = 2 * Nat.pow 2 63 := rfl
  cases negative with
  | false =>
    show -(Nat.pow 2 63 : Nat) ≤ (m : Int) ∧ (m : Int) < (Nat.pow 2 64 : Nat)
    omega
  | true =>
    rw [integer]
    simp only [Bool.not_true, Bool.false_eq_true, if_false]
    split
    · next hm =>
      show -(Nat.pow 2 63 : Nat) ≤ -(m : Int) ∧ -(m : Int) < (Nat.pow 2 64 : Nat)
      omega
    · trivial

theorem fits_of_afterInteger (hm : m < Nat.pow 2 64) (h : afterInteger negative m s = .ok (n, r)) : n.Fits := by
  unfold afterInteger at h
  split at h
  · exact fits_of_fraction h
  · exact fits_of_exponent h
  · exact fits_of_exponent h
  · cases h
    exact fits_integer negative hm

theorem fits_of_afterLongInteger {dropped : Nat} (h : afterLongInteger negative m dropped s = .ok (n, r)) :
    n.Fits := by
  unfold afterLongInteger at h
  split at h
  · exact fits_of_fraction h
  · exact fits_of_scaled h

/-- **A number that is read fits.** -/
theorem fits_of_number (h : number negative s = .ok (n, r)) : n.Fits := by
  unfold number at h
  split at h
  · cases h
  · split at h
    · cases h
    · exact fits_of_afterInteger (Nat.pow_pos (by decide)) h
  · split at h
    · cases h
    · simp only at h
      split at h
      · exact fits_of_afterLongInteger h
      · exact fits_of_afterInteger (accumulate_lt (Nat.pow_pos (by decide)) s) h

/-! ## Values -/

/-- What the readers yield within some steps. -/
structure Yields (steps : Nat) : Prop where
  value : ∀ {depth : Nat} {s r : List Char} {v : Value}, value steps depth s = .ok (v, r) → Readable depth v
  firstItem : ∀ {depth : Nat} {s r : List Char} {vs : List Value}, firstItem steps depth s = .ok (vs, r) →
    ∀ v ∈ vs, Readable depth v
  moreItems : ∀ {depth : Nat} {s r : List Char} {vs : List Value}, moreItems steps depth s = .ok (vs, r) →
    ∀ v ∈ vs, Readable depth v
  firstEntry : ∀ {depth : Nat} {s r : List Char} {es : List (List Char × Value)},
    firstEntry steps depth s = .ok (es, r) → ∀ e ∈ es, Readable depth e.2
  moreEntries : ∀ {depth : Nat} {s r : List Char} {es : List (List Char × Value)},
    moreEntries steps depth s = .ok (es, r) → ∀ e ∈ es, Readable depth e.2
  entry : ∀ {depth : Nat} {s r : List Char} {e : List Char × Value}, entry steps depth s = .ok (e, r) →
    Readable depth e.2

theorem yields_zero : Yields 0 where
  value h := by simp [Json.value] at h
  firstItem h := by simp [Json.firstItem] at h
  moreItems h := by simp [Json.moreItems] at h
  firstEntry h := by simp [Json.firstEntry] at h
  moreEntries h := by simp [Json.moreEntries] at h
  entry h := by simp [Json.entry] at h

variable {steps depth : Nat}

theorem Yields.value_succ (ih : Yields steps) {v : Value} (h : Json.value (steps + 1) depth s = .ok (v, r)) :
    Readable depth v := by
  unfold Json.value at h
  split at h
  · cases h
  · obtain ⟨_, -, h⟩ := ok_of_bind h
    cases h
    exact .null depth
  · obtain ⟨_, -, h⟩ := ok_of_bind h
    cases h
    exact .bool depth true
  · obtain ⟨_, -, h⟩ := ok_of_bind h
    cases h
    exact .bool depth false
  · obtain ⟨⟨t, _⟩, -, h⟩ := ok_of_bind h
    cases h
    exact .string depth t
  · obtain ⟨⟨n, _⟩, hn, h⟩ := ok_of_bind h
    cases h
    exact .number depth (fits_of_number hn)
  · cases depth with
    | zero => cases h
    | succ depth =>
      obtain ⟨⟨vs, _⟩, hvs, h⟩ := ok_of_bind h
      cases h
      exact .array (ih.firstItem hvs)
  · cases depth with
    | zero => cases h
    | succ depth =>
      obtain ⟨⟨es, _⟩, hes, h⟩ := ok_of_bind h
      cases h
      exact .object (ascending_collect es) fun e he => ih.firstEntry hes e (mem_collect he)
  · split at h
    · obtain ⟨⟨n, _⟩, hn, h⟩ := ok_of_bind h
      cases h
      exact .number depth (fits_of_number hn)
    · cases h

theorem Yields.firstItem_succ (ih : Yields steps) {vs : List Value}
    (h : Json.firstItem (steps + 1) depth s = .ok (vs, r)) : ∀ v ∈ vs, Readable depth v := by
  unfold Json.firstItem at h
  split at h
  · cases h
  · cases h
  · cases h
    exact List.forall_mem_nil _
  · next hsteps _ _ =>
    cases hsteps
    obtain ⟨⟨v, _⟩, hv, h⟩ := ok_of_bind h
    obtain ⟨⟨vs, _⟩, hvs, h⟩ := ok_of_bind h
    cases h
    exact List.forall_mem_cons.mpr ⟨ih.value hv, ih.moreItems hvs⟩

theorem Yields.moreItems_succ (ih : Yields steps) {vs : List Value}
    (h : Json.moreItems (steps + 1) depth s = .ok (vs, r)) : ∀ v ∈ vs, Readable depth v := by
  unfold Json.moreItems at h
  split at h
  · cases h
  · cases h
  · cases h
    exact List.forall_mem_nil _
  · next hsteps =>
    cases hsteps
    split at h
    · cases h
    · cases h
    · obtain ⟨⟨v, _⟩, hv, h⟩ := ok_of_bind h
      obtain ⟨⟨vs, _⟩, hvs, h⟩ := ok_of_bind h
      cases h
      exact List.forall_mem_cons.mpr ⟨ih.value hv, ih.moreItems hvs⟩
  · cases h

theorem Yields.firstEntry_succ (ih : Yields steps) {es : List (List Char × Value)}
    (h : Json.firstEntry (steps + 1) depth s = .ok (es, r)) : ∀ e ∈ es, Readable depth e.2 := by
  unfold Json.firstEntry at h
  split at h
  · cases h
  · cases h
  · cases h
    exact List.forall_mem_nil _
  · next hsteps =>
    cases hsteps
    obtain ⟨⟨e, _⟩, he, h⟩ := ok_of_bind h
    obtain ⟨⟨es, _⟩, hes, h⟩ := ok_of_bind h
    cases h
    exact List.forall_mem_cons.mpr ⟨ih.entry he, ih.moreEntries hes⟩
  · cases h

theorem Yields.moreEntries_succ (ih : Yields steps) {es : List (List Char × Value)}
    (h : Json.moreEntries (steps + 1) depth s = .ok (es, r)) : ∀ e ∈ es, Readable depth e.2 := by
  unfold Json.moreEntries at h
  split at h
  · cases h
  · cases h
  · cases h
    exact List.forall_mem_nil _
  · next hsteps =>
    cases hsteps
    split at h
    · cases h
    · obtain ⟨⟨e, _⟩, he, h⟩ := ok_of_bind h
      obtain ⟨⟨es, _⟩, hes, h⟩ := ok_of_bind h
      cases h
      exact List.forall_mem_cons.mpr ⟨ih.entry he, ih.moreEntries hes⟩
    · cases h
    · cases h
  · cases h

theorem Yields.entry_succ (ih : Yields steps) {e : List Char × Value}
    (h : Json.entry (steps + 1) depth s = .ok (e, r)) : Readable depth e.2 := by
  unfold Json.entry at h
  obtain ⟨⟨k, t⟩, -, h⟩ := ok_of_bind h
  simp only at h
  split at h
  · cases h
  · obtain ⟨⟨v, _⟩, hv, h⟩ := ok_of_bind h
    cases h
    exact ih.value hv
  · cases h

/-- **Within any number of steps, what is read is readable.** -/
theorem yields (steps : Nat) : Yields steps := by
  induction steps with
  | zero => exact yields_zero
  | succ steps ih =>
    exact ⟨ih.value_succ, ih.firstItem_succ, ih.moreItems_succ, ih.firstEntry_succ, ih.moreEntries_succ, ih.entry_succ⟩

/-- A document is a value that only blanks follow. -/
theorem parse_eq_ok_iff {v : Value} :
    parse s = .ok v ↔ ∃ r, Json.value (2 * s.length + 1) 127 s = .ok (v, r) ∧ skip r = [] := by
  rw [parse, document]
  cases Json.value (2 * s.length + 1) 127 s with
  | error stop => exact iff_of_false nofun nofun
  | ok p =>
    obtain ⟨v', r⟩ := p
    simp only [bind, Except.bind]
    split
    · next hr =>
      constructor
      · rintro ⟨⟩
        exact ⟨r, rfl, hr⟩
      · rintro ⟨_, ⟨⟩, -⟩
        rfl
    · next hr =>
      refine iff_of_false nofun ?_
      rintro ⟨_, ⟨⟩, hnil⟩
      exact hr hnil

/-- **A document that is read is readable.** -/
theorem readable_of_parse {v : Value} (h : parse s = .ok v) : Readable 127 v := by
  obtain ⟨r, hv, -⟩ := parse_eq_ok_iff.mp h
  exact (yields _).value hv

end Steps

end PaymentDesk.Json
