import PaymentDesk.Payload
import PaymentDesk.Proofs.Text.Decimal
import PaymentDesk.Proofs.Text.Trim

/-!
# The query as a normal form of the criteria

The query of a search lists the values that are given (`Criteria.values`) with their keys (`Criteria.keys`), in the
order of the keys (`toQuery_eq`). As no key stands twice, each value is found again under its key (`map_lookup_given`):
the query says what all the values are, and so do the criteria that it fills (`fill_toQuery`).

**Two searches are the same exactly if their amounts are, and their texts but for the blanks around them**; a text that
is not given is as good as a blank one (`toQuery_normal`).
-/

namespace PaymentDesk

open Text

/-! ## Numbers without blanks -/

theorem Text.Decimal.not_isBlank_of_digit {c : Char} (h : (digit? c).isSome = true) : isBlank c = false := by
  rw [digit?] at h
  split at h
  · next hc =>
    have hlow : 48 ≤ c.toNat := hc.1
    have hhigh : c.toNat ≤ 57 := hc.2
    simp only [isBlank, Bool.or_eq_false_iff, Bool.and_eq_false_iff, decide_eq_false_iff_not, beq_eq_false_iff_ne]
    omega
  · cases h

theorem Text.Decimal.tight_ofNat (n : Nat) : Tight (ofNat n) := by
  have hdigit (c : Char) (hc : c ∈ ofNat n) : isBlank c = false := not_isBlank_of_digit (digit_of_mem_ofNat hc)
  refine ⟨ofNat_ne_nil n, ?_, ?_⟩
  · intro c hc
    exact hdigit c (List.mem_of_mem_head? hc)
  · intro c hc
    exact hdigit c (List.mem_of_mem_getLast? hc)

namespace Criteria

/-! ## Values under their keys -/

section Given

variable {κ α : Type}

/-- The values that are given, each with its key. -/
def given (keys : List κ) (values : List (Option α)) : List (κ × α) :=
  (keys.zip values).filterMap fun p => p.2.map fun value => (p.1, value)

theorem given_cons (key : κ) (value : Option α) (keys : List κ) (values : List (Option α)) :
    given (key :: keys) (value :: values) = (value.map fun v => (key, v)).toList ++ given keys values := by
  cases value <;> rfl

/-- The keys of what is given are some of the keys, in order. -/
theorem keys_given_sublist (keys : List κ) (values : List (Option α)) :
    ((given keys values).map Prod.fst).Sublist keys := by
  induction keys generalizing values with
  | nil => exact List.Sublist.refl []
  | cons key keys ih =>
    cases values with
    | nil => exact List.nil_sublist _
    | cons value values =>
      rw [given_cons]
      cases value with
      | none => exact (ih values).cons key
      | some v => exact (ih values).cons_cons key

theorem mem_given {p : κ × α} {keys : List κ} {values : List (Option α)} (h : p ∈ given keys values) :
    some p.2 ∈ values := by
  obtain ⟨q, hq, hp⟩ := List.mem_filterMap.mp h
  obtain ⟨value, hvalue, rfl⟩ := Option.map_eq_some_iff.mp hp
  rw [← hvalue]
  exact (List.of_mem_zip hq).2

/-- **Each value is found under its key**, if no key stands twice. -/
theorem map_lookup_given [BEq κ] [LawfulBEq κ] {keys : List κ} {values : List (Option α)} (distinct : keys.Nodup)
    (length : keys.length = values.length) : (keys.map fun key => (given keys values).lookup key) = values := by
  induction keys generalizing values with
  | nil =>
    cases values with
    | nil => rfl
    | cons value values => cases length
  | cons key keys ih =>
    cases values with
    | nil => cases length
    | cons value values =>
      obtain ⟨hkey, hkeys⟩ := List.nodup_cons.mp distinct
      -- the first pair, if there is one, is under another key than those that follow
      have hother : ∀ k ∈ keys, (given (key :: keys) (value :: values)).lookup k = (given keys values).lookup k := by
        intro k hk
        have hne : (k == key) = false := beq_eq_false_iff_ne.mpr fun h => hkey (h ▸ hk)
        rw [given_cons]
        cases value with
        | none => rfl
        | some v =>
          rw [Option.map_some, Option.toList_some, List.singleton_append, List.lookup_cons, hne]
      have hfirst : (given (key :: keys) (value :: values)).lookup key = value := by
        rw [given_cons]
        cases value with
        | none =>
          -- the keys of the other pairs are among the others
          refine List.lookup_eq_none_iff.mpr fun p hp => ?_
          have hmem := (keys_given_sublist keys values).subset (List.mem_map_of_mem hp)
          have hne : key ≠ p.1 := fun h => hkey (h ▸ hmem)
          exact bne_iff_ne.mpr hne
        | some v => rw [Option.map_some, Option.toList_some, List.singleton_append, List.lookup_cons_self]
      rw [List.map_cons, hfirst, List.map_congr_left hother, ih hkeys (Nat.succ.inj length)]

end Given

/-! ## The values of a search -/

/-- The keys of a query, in order. -/
def keys : List (List Char) :=
  ["amount", "application_reference", "description", "payment_reference", "created_date", "email"].map String.toList

theorem nodup_keys : keys.Nodup := by decide

/-- The criteria that are texts, in the order of their keys. -/
def texts (c : Criteria) : List (Option (List Char)) :=
  [c.applicationReference, c.description, c.paymentReference, c.createdDate, c.email]

/-- A text without the blanks around it; one that is not given counts as blank. -/
def trimmed (text : Option (List Char)) : List Char := trim (text.getD [])

/-- A text, unless it is empty. -/
def nonempty (s : List Char) : Option (List Char) := (some s).filter (! ·.isEmpty)

/-- The values of a search, in the order of their keys. -/
def values (c : Criteria) : List (Option (List Char)) :=
  c.amount.map Decimal.ofNat :: c.texts.map fun text => nonempty (trimmed text)

variable {s t : List Char}

theorem nonempty_eq_some_iff : nonempty s = some t ↔ s = t ∧ t ≠ [] := by
  cases s with
  | nil => simp [nonempty]
  | cons c r =>
    rw [nonempty, Option.filter_some, List.isEmpty_cons, Bool.not_false, if_pos rfl, Option.some.injEq]
    constructor
    · rintro rfl
      exact ⟨rfl, List.cons_ne_nil c r⟩
    · exact And.left

theorem nonempty_inj (h : nonempty s = nonempty t) : s = t := by
  cases t with
  | nil =>
    cases s with
    | nil => rfl
    | cons c r => cases h
  | cons c r => exact (nonempty_eq_some_iff.mp h).1

/-- What is trimmed and not empty stays as it is. -/
theorem nonempty_trimmed (text : Option (List Char)) :
    nonempty (trimmed (nonempty (trimmed text))) = nonempty (trimmed text) := by
  cases h : nonempty (trimmed text) with
  | none => rfl
  | some t =>
    obtain ⟨rfl, -⟩ := nonempty_eq_some_iff.mp h
    have hagain : trimmed (some (trimmed text)) = trimmed text := trim_trim _
    rw [hagain, h]

theorem textPair_eq (key : List Char) (text : Option (List Char)) :
    textPair key text = (nonempty (trimmed text)).map fun value => (key, value) := by
  cases text with
  | none => rfl
  | some s =>
    have htrimmed : trimmed (some s) = trim s := rfl
    rw [textPair, htrimmed, Option.map_some]
    cases trim s <;> rfl

/-- **The query lists the values under their keys.** -/
theorem toQuery_eq (c : Criteria) : c.toQuery = given keys c.values := by
  have hamount : (c.amount.map fun n => ("amount".toList, Decimal.ofNat n)) =
      (c.amount.map Decimal.ofNat).map fun value => ("amount".toList, value) := by
    rw [Option.map_map]
    rfl
  simp only [toQuery, hamount, textPair_eq]
  rfl

/-! ## Criteria from a query -/

/-- The criteria that pairs fill, each the field that its key names. -/
def fill (pairs : List (List Char × List Char)) : Criteria where
  amount := (pairs.lookup "amount".toList).bind Decimal.nat?
  applicationReference := pairs.lookup "application_reference".toList
  description := pairs.lookup "description".toList
  paymentReference := pairs.lookup "payment_reference".toList
  createdDate := pairs.lookup "created_date".toList
  email := pairs.lookup "email".toList

theorem lookup_toQuery (c : Criteria) : (keys.map fun key => c.toQuery.lookup key) = c.values := by
  have length : keys.length = c.values.length := rfl
  rw [toQuery_eq]
  exact map_lookup_given nodup_keys length

/-- **A query fills its criteria again**, their texts as they are in the query. -/
theorem fill_toQuery (c : Criteria) :
    (fill c.toQuery).amount = c.amount ∧ (fill c.toQuery).texts = c.texts.map fun text => nonempty (trimmed text) := by
  obtain ⟨hamount, htexts⟩ := List.cons.inj (lookup_toQuery c)
  have hfound : c.toQuery.lookup "amount".toList = c.amount.map Decimal.ofNat := hamount
  refine ⟨?_, htexts⟩
  show (c.toQuery.lookup "amount".toList).bind Decimal.nat? = c.amount
  rw [hfound]
  cases c.amount with
  | none => rfl
  | some n => exact Decimal.nat?_ofNat n

theorem values_fill_toQuery (c : Criteria) : (fill c.toQuery).values = c.values := by
  obtain ⟨hamount, htexts⟩ := fill_toQuery c
  rw [values, values, hamount, htexts, List.map_map]
  congr 1
  exact List.map_congr_left fun text _ => nonempty_trimmed text

theorem toQuery_eq_iff {c d : Criteria} : c.toQuery = d.toQuery ↔ c.values = d.values := by
  constructor
  · intro h
    rw [← lookup_toQuery, h, lookup_toQuery]
  · intro h
    rw [toQuery_eq, h, toQuery_eq]

theorem values_eq_iff {c d : Criteria} :
    c.values = d.values ↔ c.amount = d.amount ∧ c.texts.map trimmed = d.texts.map trimmed := by
  have hamount : c.amount.map Decimal.ofNat = d.amount.map Decimal.ofNat ↔ c.amount = d.amount :=
    Option.map_inj_right fun _ _ => Decimal.ofNat_inj.mp
  have htexts (x : Criteria) : (x.texts.map fun text => nonempty (trimmed text)) = (x.texts.map trimmed).map nonempty :=
    (List.map_map ..).symm
  rw [values, values, List.cons.injEq, hamount, htexts, htexts, List.map_inj_right fun _ _ => nonempty_inj]

theorem tight_of_mem_values {c : Criteria} (h : some s ∈ c.values) : Tight s := by
  rcases List.mem_cons.mp h with hamount | htext
  · obtain ⟨n, -, rfl⟩ := Option.map_eq_some_iff.mp hamount.symm
    exact Decimal.tight_ofNat n
  · obtain ⟨text, -, htext⟩ := List.mem_map.mp htext
    obtain ⟨rfl, hne⟩ := nonempty_eq_some_iff.mp htext
    exact tight_trim hne

/-- **The query is a normal form of the criteria.** Its keys are some of the six, each once and in order; its values are
not empty and have no blanks around them; the criteria that it fills have the same query. Two criteria have the same
query exactly if their amounts are the same, and their texts are when trimmed. -/
theorem toQuery_normal (c d : Criteria) :
    (c.toQuery.map Prod.fst).Sublist keys ∧ (c.toQuery.map Prod.fst).Nodup ∧
    (∀ p ∈ c.toQuery, Tight p.2) ∧
    (fill c.toQuery).toQuery = c.toQuery ∧
    (c.toQuery = d.toQuery ↔ c.amount = d.amount ∧ c.texts.map trimmed = d.texts.map trimmed) := by
  have hkeys : (c.toQuery.map Prod.fst).Sublist keys := by
    rw [toQuery_eq]
    exact keys_given_sublist keys c.values
  refine ⟨hkeys, hkeys.nodup nodup_keys, fun p hp => ?_, toQuery_eq_iff.mpr (values_fill_toQuery c),
    toQuery_eq_iff.trans values_eq_iff⟩
  rw [toQuery_eq] at hp
  exact tight_of_mem_values (mem_given hp)

end Criteria

end PaymentDesk
