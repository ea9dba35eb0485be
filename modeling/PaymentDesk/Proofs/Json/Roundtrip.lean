import PaymentDesk.Proofs.Json.Readable
import PaymentDesk.Proofs.Json.Spaced
import PaymentDesk.Proofs.Json.Tokens

/-!
# Documents read back

A readable document whose numbers are all integers is read back as it was written, whatever blanks stand between its
tokens (`readsBack`), and so from its compact text and from the page that shows it (`parse_compact`, `parse_page`).
-/

namespace PaymentDesk.Json

open PaymentDesk.Text

/-! ## Integers -/

/-- The number is an integer. -/
def Number.isInt : Number → Bool
  | .int _ => true
  | .real _ => false

mutual

/-- The numbers of a document. -/
def numbers : Value → List Number
  | .number n => [n]
  | .array items => numbersOfItems items
  | .object entries => numbersOfEntries entries
  | .null | .bool _ | .string _ => []

/-- The numbers of some items. -/
def numbersOfItems : List Value → List Number
  | [] => []
  | v :: r => numbers v ++ numbersOfItems r

/-- The numbers of some entries. -/
def numbersOfEntries : List (List Char × Value) → List Number
  | [] => []
  | (_, v) :: r => numbers v ++ numbersOfEntries r

end

/-- All numbers of a document are integers. -/
def Integral (v : Value) : Prop := ∀ n ∈ numbers v, n.isInt = true

instance : DecidablePred Integral := fun v => inferInstanceAs (Decidable (∀ n ∈ numbers v, n.isInt = true))

theorem Integral.of_mem_items {items : List Value} (h : Integral (.array items)) : ∀ v ∈ items, Integral v := by
  rw [Integral, numbers] at h
  induction items with
  | nil => exact nofun
  | cons v r ih =>
    rw [numbersOfItems, List.forall_mem_append] at h
    exact List.forall_mem_cons.mpr ⟨h.1, ih h.2⟩

theorem Integral.of_mem_entries {entries : List (List Char × Value)} (h : Integral (.object entries)) :
    ∀ e ∈ entries, Integral e.2 := by
  rw [Integral, numbers] at h
  induction entries with
  | nil => exact nofun
  | cons e r ih =>
    rw [numbersOfEntries, List.forall_mem_append] at h
    exact List.forall_mem_cons.mpr ⟨h.1, ih h.2⟩

theorem integral_object {entries : List (List Char × Value)} (h : ∀ e ∈ entries, Integral e.2) :
    Integral (.object entries) := by
  rw [Integral, numbers]
  induction entries with
  | nil => exact List.forall_mem_nil _
  | cons e r ih =>
    obtain ⟨he, hr⟩ := List.forall_mem_cons.mp h
    rw [numbersOfEntries, List.forall_mem_append]
    exact ⟨he, ih hr⟩

/-! ## Blanks -/

theorem skip_append {blanks : List Char} (h : ∀ c ∈ blanks, isSpace c = true) (s : List Char) :
    skip (blanks ++ s) = skip s := by
  induction blanks with
  | nil => rfl
  | cons c r ih =>
    rw [List.cons_append, skip, List.dropWhile_cons_of_pos (h c List.mem_cons_self)]
    exact ih fun c' hc' => h c' (List.mem_cons_of_mem c hc')

theorem skip_cons {c : Char} (h : isSpace c = false) (r : List Char) : skip (c :: r) = c :: r :=
  List.dropWhile_cons_of_neg (by simp [h])

theorem of_digit {c : Char} (h : (Decimal.digit? c).isSome = true) : isSpace c = false ∧ c ≠ ']' := by
  constructor
  · cases hc : isSpace c with
    | false => rfl
    | true =>
      simp only [isSpace, Bool.or_eq_true, beq_iff_eq] at hc
      rcases hc with ((rfl | rfl) | rfl) | rfl <;> cases h
  · rintro rfl
    cases h

/-- After blanks, a comma or a closing bracket ends a number. -/
theorem endsNumber_append {blanks : List Char} (h : ∀ c ∈ blanks, isSpace c = true) {s : List Char}
    (hs : EndsNumber s) : EndsNumber (blanks ++ s) := by
  cases blanks with
  | nil => exact hs
  | cons c r =>
    intro c' hc'
    obtain rfl : c = c' := Option.some.inj hc'
    have hc := h c List.mem_cons_self
    simp only [isSpace, Bool.or_eq_true, beq_iff_eq] at hc
    rcases hc with ((rfl | rfl) | rfl) | rfl <;> decide

theorem endsNumber_nil : EndsNumber [] := nofun

theorem endsNumber_cons {c : Char} (h : Decimal.digit? c = none ∧ c ≠ '.' ∧ c ≠ 'e' ∧ c ≠ 'E') (r : List Char) :
    EndsNumber (c :: r) := by
  intro c' hc'
  obtain rfl : c = c' := Option.some.inj hc'
  exact h

/-! ## Values -/

section Values

variable {b : Blanks} {steps depth : Nat} {v : Value} {s r : List Char}

theorem value_of_digit {n : Number} (hs : startsDigit s = true) (h : number false s = .ok (n, r)) :
    value (steps + 1) depth s = .ok (.number n, r) := by
  have hskip : skip s = s := by
    cases s with
    | nil => rfl
    | cons c s => exact skip_cons (of_digit hs).1 s
  unfold value
  rw [hskip]
  split <;> first
    | cases hs
    | rw [if_pos hs, h]; rfl

theorem value_minus {n : Number} (h : number true s = .ok (n, r)) :
    value (steps + 1) depth ('-' :: s) = .ok (.number n, r) := by
  unfold value
  rw [skip_cons rfl]
  simp only [h, bind, Except.bind]

/-- An integer is read back. -/
theorem value_ofInt {n : Int} (hn : (Number.int n).Fits) (hrest : EndsNumber r) :
    value (steps + 1) depth (Decimal.ofInt n ++ r) = .ok (.number (.int n), r) := by
  obtain ⟨hlow, hhigh⟩ := hn
  cases n with
  | ofNat n =>
    have hdigits := number_ofNat (n := n) false (Int.ofNat_lt.mp hhigh) hrest
    refine value_of_digit ?_ hdigits
    obtain ⟨c, t, hct, hc⟩ := Decimal.exists_cons_ofNat n
    rw [Decimal.ofInt, hct]
    exact hc
  | negSucc n =>
    have hsmall : n + 1 ≤ Nat.pow 2 63 := by omega
    have hsigned : Nat.pow 2 64 = 2 * Nat.pow 2 63 := rfl
    have hdigits := number_ofNat (n := n + 1) true (by omega) hrest
    rw [integer] at hdigits
    simp only [Bool.not_true, Bool.false_eq_true, if_false] at hdigits
    rw [if_pos ⟨by omega, hsmall⟩] at hdigits
    exact value_minus hdigits

/-- The first character of a value. -/
theorem exists_head (b : Blanks) (depth : Nat) (hv : Integral v) :
    ∃ c t, spaced b depth v = c :: t ∧ isSpace c = false ∧ c ≠ ']' := by
  cases v with
  | null => exact ⟨_, _, rfl, rfl, by decide⟩
  | bool t => cases t <;> exact ⟨_, _, rfl, rfl, by decide⟩
  | string s => exact ⟨_, _, rfl, rfl, by decide⟩
  | array items => cases items <;> exact ⟨_, _, rfl, rfl, by decide⟩
  | object entries => rcases entries with _ | ⟨⟨k, v⟩, r⟩ <;> exact ⟨_, _, rfl, rfl, by decide⟩
  | number n =>
    cases n with
    | real x => cases hv (.real x) List.mem_cons_self
    | int n =>
      cases n with
      | negSucc n => exact ⟨_, _, rfl, rfl, by decide⟩
      | ofNat n =>
        obtain ⟨c, t, hct, hc⟩ := Decimal.exists_cons_ofNat n
        exact ⟨c, t, hct, of_digit hc⟩

/-- A value is read back, within twice as many steps as it has characters, however deep it stands. -/
def ReadsBack (b : Blanks) (limit : Nat) (v : Value) : Prop :=
  ∀ (depth steps : Nat) (rest : List Char), 2 * (spaced b depth v).length ≤ steps → EndsNumber rest →
    value steps limit (spaced b depth v ++ rest) = .ok (v, rest)

variable {limit : Nat} {rest : List Char}

theorem length_spaced_pos (b : Blanks) (depth : Nat) (hv : Integral v) : 0 < (spaced b depth v).length := by
  obtain ⟨c, t, hct, -⟩ := exists_head b depth hv
  rw [hct]
  exact Nat.succ_pos _

/-- Blanks in front of a value are skipped, and nothing else. -/
theorem skip_spaced (b : Blanks) (depth : Nat) (hv : Integral v) (s : List Char) :
    skip (b.gap depth ++ (spaced b depth v ++ s)) = spaced b depth v ++ s := by
  obtain ⟨c, t, hct, hspace, -⟩ := exists_head b depth hv
  rw [skip_append (b.gap_blank depth), hct, List.cons_append, skip_cons hspace]

/-! ### Arrays -/

theorem value_array {items : List Value} (h : firstItem steps limit (skip s) = .ok (items, r)) :
    value (steps + 1) (limit + 1) ('[' :: s) = .ok (.array items, r) := by
  unfold value
  rw [skip_cons rfl]
  simp only [h, bind, Except.bind]

theorem endsNumber_items (items : List Value) : EndsNumber (spacedItems b depth items ++ rest) := by
  cases items with
  | nil =>
    rw [spacedItems, List.append_assoc]
    exact endsNumber_append (b.gap_blank depth) (endsNumber_cons (by decide) rest)
  | cons v r => exact endsNumber_cons (by decide) _

/-- An item, and then those after it. -/
theorem items_of_value {items : List Value} (hv : Integral v) {steps : Nat}
    (hvalue : value steps limit (spaced b depth v ++ s) = .ok (v, s))
    (hmore : moreItems steps limit (skip s) = .ok (items, r)) :
    firstItem (steps + 1) limit (spaced b depth v ++ s) = .ok (v :: items, r) ∧
      moreItems (steps + 1) limit (',' :: (b.gap depth ++ (spaced b depth v ++ s))) = .ok (v :: items, r) := by
  obtain ⟨c, t, hct, -, hbracket⟩ := exists_head b depth hv
  constructor
  · unfold firstItem
    split
    · next h => cases h
    · next h => rw [hct] at h; cases h
    · next h => rw [hct] at h; cases h; exact absurd rfl hbracket
    · next h _ _ =>
      cases h
      simp only [hvalue, hmore, bind, Except.bind]
  · unfold moreItems
    simp only [skip_spaced b depth hv]
    split
    · next h => rw [hct] at h; cases h
    · next h => rw [hct] at h; cases h; exact absurd rfl hbracket
    · simp only [hvalue, hmore, bind, Except.bind]

/-- The items after the first are read back. -/
theorem moreItems_spaced {items : List Value} (h : ∀ v ∈ items, Integral v ∧ ReadsBack b limit v)
    (hsteps : 2 * (spacedItems b depth items).length ≤ steps) :
    moreItems steps limit (skip (spacedItems b depth items ++ rest)) = .ok (items, rest) := by
  induction items generalizing steps with
  | nil =>
    rw [spacedItems, List.length_append, List.length_singleton] at hsteps
    obtain ⟨steps, rfl⟩ := Nat.exists_eq_add_of_le' (show 1 ≤ steps by omega)
    rw [spacedItems, List.append_assoc, skip_append (b.gap_blank depth), List.singleton_append, skip_cons rfl, moreItems]
  | cons v items ih =>
    obtain ⟨hint, hv⟩ := h v List.mem_cons_self
    simp only [spacedItems, List.length_cons, List.length_append] at hsteps
    obtain ⟨steps, rfl⟩ := Nat.exists_eq_add_of_le' (show 1 ≤ steps by omega)
    have hmore : moreItems steps limit (skip (spacedItems b depth items ++ rest)) = .ok (items, rest) :=
      ih (fun v' hv' => h v' (List.mem_cons_of_mem v hv')) (by omega)
    have hvalue := hv (depth + 1) steps (spacedItems b depth items ++ rest) (by omega) (endsNumber_items items)
    rw [spacedItems, List.cons_append, List.append_assoc, List.append_assoc, skip_cons rfl]
    exact (items_of_value hint hvalue hmore).2

theorem readsBack_array {items : List Value} (h : ∀ v ∈ items, Integral v ∧ ReadsBack b limit v) :
    ReadsBack b (limit + 1) (.array items) := by
  intro depth steps rest hsteps _
  cases items with
  | nil =>
    obtain ⟨steps, rfl⟩ := Nat.exists_eq_add_of_le' (show 2 ≤ steps from Nat.le_trans (by simp [spaced]) hsteps)
    rw [spaced, List.cons_append]
    refine value_array ?_
    rw [List.singleton_append, skip_cons rfl, firstItem]
  | cons v items =>
    obtain ⟨hint, hv⟩ := h v List.mem_cons_self
    have hpos := length_spaced_pos b (depth + 1) hint
    simp only [spaced, List.length_cons, List.length_append] at hsteps
    obtain ⟨steps, rfl⟩ := Nat.exists_eq_add_of_le' (show 2 ≤ steps by omega)
    have hmore : moreItems steps limit (skip (spacedItems b depth items ++ rest)) = .ok (items, rest) :=
      moreItems_spaced (fun v' hv' => h v' (List.mem_cons_of_mem v hv')) (by omega)
    have hvalue := hv (depth + 1) steps (spacedItems b depth items ++ rest) (by omega) (endsNumber_items items)
    rw [spaced, List.cons_append, List.append_assoc, List.append_assoc]
    refine value_array ?_
    rw [skip_spaced b (depth + 1) hint]
    exact (items_of_value hint hvalue hmore).1

/-! ### Objects -/

theorem value_object {entries : List (List Char × Value)} (h : firstEntry steps limit (skip s) = .ok (entries, r)) :
    value (steps + 1) (limit + 1) ('\x7b' :: s) = .ok (.object (collect entries), r) := by
  unfold value
  rw [skip_cons rfl]
  simp only [h, bind, Except.bind]

theorem quote_append (k s : List Char) : quote k ++ s = '"' :: (k.flatMap escape ++ '"' :: s) := by
  rw [quote, List.cons_append, List.append_assoc, List.singleton_append]

theorem value_skip {blanks : List Char} (h : ∀ c ∈ blanks, isSpace c = true) :
    value (steps + 1) depth (blanks ++ s) = value (steps + 1) depth s := by
  unfold value
  rw [skip_append h]

theorem endsNumber_entries (entries : List (List Char × Value)) :
    EndsNumber (spacedEntries b depth entries ++ rest) := by
  cases entries with
  | nil =>
    rw [spacedEntries, List.append_assoc]
    exact endsNumber_append (b.gap_blank depth) (endsNumber_cons (by decide) rest)
  | cons e r => exact endsNumber_cons (by decide) _

/-- An entry is read back, its opening quote apart. -/
theorem entry_spaced {k : List Char} (hint : Integral v) (hv : ReadsBack b limit v)
    (hsteps : 2 * (spaced b depth v).length ≤ steps) (hs : EndsNumber s) :
    entry (steps + 1) limit (k.flatMap escape ++ '"' :: ':' :: (b.afterColon ++ (spaced b depth v ++ s))) =
      .ok ((k, v), s) := by
  have hpos := length_spaced_pos b depth hint
  have hvalue := hv depth steps s hsteps hs
  obtain ⟨steps, rfl⟩ := Nat.exists_eq_add_of_le' (show 1 ≤ steps by omega)
  rw [← value_skip b.afterColon_blank] at hvalue
  rw [entry, string_quote]
  simp only [bind, Except.bind, skip_cons (show isSpace ':' = false from rfl), hvalue]

/-- An entry, and then those after it. -/
theorem entries_of_entry (b : Blanks) (depth : Nat) {k t : List Char} {entries : List (List Char × Value)}
    (hentry : entry steps limit (k.flatMap escape ++ '"' :: t) = .ok ((k, v), s))
    (hmore : moreEntries steps limit (skip s) = .ok (entries, r)) :
    firstEntry (steps + 1) limit (quote k ++ t) = .ok ((k, v) :: entries, r) ∧
      moreEntries (steps + 1) limit (',' :: (b.gap depth ++ (quote k ++ t))) = .ok ((k, v) :: entries, r) := by
  rw [quote_append]
  constructor
  · rw [firstEntry]
    simp only [hentry, hmore, bind, Except.bind]
  · rw [moreEntries, skip_append (b.gap_blank depth), skip_cons rfl]
    simp only [hentry, hmore, bind, Except.bind]

/-- The entries after the first are read back. -/
theorem moreEntries_spaced {entries : List (List Char × Value)}
    (h : ∀ e ∈ entries, Integral e.2 ∧ ReadsBack b limit e.2)
    (hsteps : 2 * (spacedEntries b depth entries).length ≤ steps) :
    moreEntries steps limit (skip (spacedEntries b depth entries ++ rest)) = .ok (entries, rest) := by
  induction entries generalizing steps with
  | nil =>
    rw [spacedEntries, List.length_append, List.length_singleton] at hsteps
    obtain ⟨steps, rfl⟩ := Nat.exists_eq_add_of_le' (show 1 ≤ steps by omega)
    rw [spacedEntries, List.append_assoc, skip_append (b.gap_blank depth), List.singleton_append, skip_cons rfl,
      moreEntries]
  | cons e entries ih =>
    obtain ⟨k, v⟩ := e
    obtain ⟨hint, hv⟩ : Integral v ∧ ReadsBack b limit v := h (k, v) List.mem_cons_self
    simp only [spacedEntries, List.length_cons, List.length_append] at hsteps
    obtain ⟨steps, rfl⟩ := Nat.exists_eq_add_of_le' (show 2 ≤ steps by omega)
    have hmore : moreEntries (steps + 1) limit (skip (spacedEntries b depth entries ++ rest)) = .ok (entries, rest) :=
      ih (fun e' he' => h e' (List.mem_cons_of_mem _ he')) (by omega)
    have hends : EndsNumber (spacedEntries b depth entries ++ rest) := endsNumber_entries entries
    have hentry := entry_spaced (k := k) hint hv (by omega : 2 * (spaced b (depth + 1) v).length ≤ steps) hends
    have hboth := (entries_of_entry b (depth + 1) hentry hmore).2
    rw [spacedEntries, List.cons_append, skip_cons rfl]
    simpa only [List.append_assoc, List.cons_append] using hboth

theorem readsBack_object {entries : List (List Char × Value)} (ascending : Ascending entries)
    (h : ∀ e ∈ entries, Integral e.2 ∧ ReadsBack b limit e.2) : ReadsBack b (limit + 1) (.object entries) := by
  intro depth steps rest hsteps _
  cases entries with
  | nil =>
    obtain ⟨steps, rfl⟩ := Nat.exists_eq_add_of_le' (show 2 ≤ steps from Nat.le_trans (by simp [spaced]) hsteps)
    rw [spaced, List.cons_append]
    have hnone : firstEntry (steps + 1) limit (skip (['\x7d'] ++ rest)) = .ok ([], rest) := by
      rw [List.singleton_append, skip_cons rfl, firstEntry]
    exact value_object hnone
  | cons e entries =>
    obtain ⟨k, v⟩ := e
    obtain ⟨hint, hv⟩ : Integral v ∧ ReadsBack b limit v := h (k, v) List.mem_cons_self
    simp only [spaced, List.length_cons, List.length_append] at hsteps
    obtain ⟨steps, rfl⟩ := Nat.exists_eq_add_of_le' (show 3 ≤ steps by omega)
    have hmore : moreEntries (steps + 1) limit (skip (spacedEntries b depth entries ++ rest)) = .ok (entries, rest) :=
      moreEntries_spaced (fun e' he' => h e' (List.mem_cons_of_mem _ he')) (by omega)
    have hends : EndsNumber (spacedEntries b depth entries ++ rest) := endsNumber_entries entries
    have hentry := entry_spaced (k := k) hint hv (by omega : 2 * (spaced b (depth + 1) v).length ≤ steps) hends
    have hboth := (entries_of_entry b (depth + 1) hentry hmore).1
    have hskip : skip (b.gap (depth + 1) ++ (quote k ++ ':' :: (b.afterColon ++
        (spaced b (depth + 1) v ++ (spacedEntries b depth entries ++ rest))))) =
        quote k ++ ':' :: (b.afterColon ++
          (spaced b (depth + 1) v ++ (spacedEntries b depth entries ++ rest))) := by
      rw [skip_append (b.gap_blank _), quote_append, skip_cons rfl]
    rw [← hskip] at hboth
    have hobject := value_object hboth
    rw [collect_of_ascending ascending] at hobject
    rw [spaced]
    simpa only [List.append_assoc, List.cons_append] using hobject

/-- One step is enough for a value without others inside it. -/
theorem readsBack_of_step (hint : Integral v) (h : ∀ (depth steps : Nat) (rest : List Char), EndsNumber rest →
    value (steps + 1) limit (spaced b depth v ++ rest) = .ok (v, rest)) : ReadsBack b limit v := by
  intro depth steps rest hsteps hrest
  have hpos := length_spaced_pos b depth hint
  obtain ⟨steps, rfl⟩ := Nat.exists_eq_add_of_le' (show 1 ≤ steps by omega)
  exact h depth steps rest hrest

/-- **A readable document is read back**, if all its numbers are integers. -/
theorem readsBack (h : Readable limit v) (hint : Integral v) : ReadsBack b limit v := by
  induction h with
  | null limit =>
    refine readsBack_of_step hint fun depth steps rest _ => ?_
    have hskip : skip ("null".toList ++ rest) = 'n' :: ("ull".toList ++ rest) := rfl
    rw [spaced]
    unfold value
    simp only [hskip, word_append, bind, Except.bind]
  | bool limit t =>
    refine readsBack_of_step hint fun depth steps rest _ => ?_
    rw [spaced]
    unfold value
    cases t with
    | true =>
      have hskip : skip (boolText true ++ rest) = 't' :: ("rue".toList ++ rest) := rfl
      simp only [hskip, word_append, bind, Except.bind]
    | false =>
      have hskip : skip (boolText false ++ rest) = 'f' :: ("alse".toList ++ rest) := rfl
      simp only [hskip, word_append, bind, Except.bind]
  | string limit s =>
    refine readsBack_of_step hint fun depth steps rest _ => ?_
    rw [spaced, quote_append]
    unfold value
    simp only [skip_cons (show isSpace '"' = false from rfl), string_quote, bind, Except.bind]
  | @number limit n fits =>
    refine readsBack_of_step hint fun depth steps rest hrest => ?_
    cases n with
    | real x => cases hint (.real x) List.mem_cons_self
    | int n => exact value_ofInt fits hrest
  | array h ih =>
    exact readsBack_array fun v hv => ⟨hint.of_mem_items v hv, ih v hv (hint.of_mem_items v hv)⟩
  | object ascending h ih =>
    exact readsBack_object ascending fun e he => ⟨hint.of_mem_entries e he, ih e he (hint.of_mem_entries e he)⟩

end Values

/-! ## Whole texts -/

variable {v : Value}

/-- **What is written is read back**, whatever blanks stand in it and after it. -/
theorem parse_spaced (b : Blanks) (h : Readable 127 v) (hint : Integral v) {trailing : List Char}
    (ht : ∀ c ∈ trailing, isSpace c = true) : parse (spaced b 0 v ++ trailing) = .ok v := by
  have hskip : skip trailing = [] := by
    rw [← List.append_nil trailing, skip_append ht]
    rfl
  have hends : EndsNumber trailing := by
    rw [← List.append_nil trailing]
    exact endsNumber_append ht endsNumber_nil
  refine parse_eq_ok_iff.mpr ⟨trailing, readsBack h hint 0 _ trailing ?_ hends, hskip⟩
  rw [List.length_append]
  omega

theorem parse_compact (h : Readable 127 v) (hint : Integral v) : parse (compact v) = .ok v := by
  rw [compact_eq 0, ← List.append_nil (spaced .none 0 v)]
  exact parse_spaced .none h hint (List.forall_mem_nil _)

/-- The page that shows a document, with the end of its last line. -/
theorem parse_page (h : Readable 127 v) (hint : Integral v) : parse (page v ++ ['\n']) = .ok v := by
  rw [page, h.sortKeys_eq, layout_eq]
  refine parse_spaced .lines h hint fun c hc => ?_
  rw [List.mem_singleton.mp hc]
  rfl

end PaymentDesk.Json
