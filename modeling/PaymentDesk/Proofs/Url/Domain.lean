import PaymentDesk.Proofs.Url.Below
import PaymentDesk.Url.Domain

/-!
# Domains with a forbidden end

An ASCII character behind a text stays there when characters are folded and composed (`fold_concat`, `compose_concat`):
it joins nothing that stands before it. Therefore a domain that ends in a character that no domain may hold keeps it
through all steps, and is refused (`toAscii?_concat`). The characters inside a domain are another matter, since a mark
behind a character may join it.
-/

namespace PaymentDesk.Url.Domain

open Text

/-! ## Lists -/

/-- What a list is turned into holds what each of its elements is turned into. -/
theorem mem_of_mapM {α β : Type} {f : α → Option β} {x : α} : ∀ {l : List α} {ys : List β}, l.mapM f = some ys → x ∈ l →
    ∃ y ∈ ys, f x = some y
  | a :: l, ys, h, hx => by
    rw [List.mapM_cons] at h
    simp only [Option.bind_eq_bind, Option.bind_eq_some_iff, Option.pure_def, Option.some.injEq] at h
    obtain ⟨y, hy, zs, hzs, rfl⟩ := h
    rcases List.mem_cons.mp hx with rfl | hx
    · exact ⟨y, List.mem_cons_self, hy⟩
    · obtain ⟨z, hz, hxz⟩ := mem_of_mapM hzs hx
      exact ⟨z, List.mem_cons_of_mem y hz, hxz⟩

theorem mem_intercalate {α : Type} {x : α} {sep l : List α} (hx : x ∈ l) : ∀ {ls : List (List α)}, l ∈ ls →
    x ∈ sep.intercalate ls
  | [k], hl => by
    rw [List.mem_singleton] at hl
    simpa [List.intercalate, ← hl] using hx
  | k :: m :: r, hl => by
    rw [List.intercalate_cons_cons]
    rcases List.mem_cons.mp hl with rfl | hl
    · exact List.mem_append_left _ (List.mem_append_left _ hx)
    · exact List.mem_append_right _ (mem_intercalate hx hl)

variable {c : Char}

/-! ## Folding and composing -/

/-- An ASCII character is folded into one. -/
theorem fold_concat (hc : c.toNat < 128) (s : List Char) : fold (s ++ [c]) = (fold s).map (· ++ [c.toLower]) := by
  have one : [c].mapM foldChar = some [[c.toLower]] := by simp [foldChar, hc]
  rw [fold, fold, List.mapM_append, one]
  cases s.mapM foldChar with
  | none => rfl
  | some l => simp

/-- An ASCII character is no mark, and no mark moves across it. -/
theorem order_concat (hc : c.toNat < 128) (s : List Char) : order (s ++ [c]) = order s ++ [(c, 0)] := by
  have class0 : combiningClass c = 0 := by rw [combiningClass, if_pos (by omega)]
  have front : ∀ l : List (Char × Nat), place c 0 l = (c, 0) :: l := by
    intro l
    cases l <;> rfl
  rw [order, order, List.foldl_append, List.foldl_cons, List.foldl_nil, class0, front, List.reverse_cons]

theorem joinFrom_concat (hc : c.toNat < 128) (l : List (Char × Nat)) (letter : Char) (marks : List (Char × Nat)) :
    joinFrom letter marks (l ++ [(c, 0)]) = joinFrom letter marks l ++ [c] := by
  have apart : ∀ a, joined? a c = none := fun a => by rw [joined?, if_pos (by omega)]
  induction l generalizing letter marks with
  | nil => simp [joinFrom, apart]
  | cons p r ih =>
    simp only [List.cons_append, joinFrom, ih]
    split
    · rfl
    · split
      · simp
      · rfl

theorem joinParts_concat (hc : c.toNat < 128) : ∀ l : List (Char × Nat),
    joinParts (l ++ [(c, 0)]) = joinParts l ++ [c]
  | [] => rfl
  | (d, k) :: r => by
    rw [List.cons_append, joinParts, joinParts, joinFrom_concat hc, joinParts_concat hc r]
    split <;> rfl

/-- An ASCII character joins nothing that stands before it. -/
theorem compose_concat (hc : c.toNat < 128) (s : List Char) : compose (s ++ [c]) = compose s ++ [c] := by
  have one : [c].flatMap decompose = [c] := by simp [decompose, hc]
  rw [compose, compose, List.flatMap_append, one, order_concat hc, joinParts_concat hc]

/-! ## Punycode -/

/-- A character that is no digit is part of no number. -/
theorem readFrom?_eq_none (hc : Punycode.digit? c = none) : ∀ {l : List Char}, c ∈ l → ∀ (u : Punycode.Cursor)
    (s : List Char) (distance k weight : Nat), Punycode.readFrom? u s distance k weight l = none
  | d :: r, h, u, s, distance, k, weight => by
    rw [Punycode.readFrom?]
    split
    · rfl
    · next n hn =>
      have hr : c ∈ r := (List.mem_cons.mp h).resolve_left fun hd => by simp [← hd, hc] at hn
      simp only [readFrom?_eq_none hc hr]
      split
      · split <;> rfl
      · rfl

/-- What stands behind the last hyphen are digits. -/
theorem decode?_concat (hd : Punycode.digit? c = none) (hm : c ≠ '-') (s : List Char) :
    Punycode.decode? (s ++ [c]) = none := by
  have last : c ∈ ((s ++ [c]).reverse.takeWhile (· != '-')).reverse := by simp [hm]
  rw [Punycode.decode?]
  split
  · dsimp only
    split
    · exact readFrom?_eq_none hd (by simp) ..
    · exact readFrom?_eq_none hd last ..
  · rfl

theorem encodedPart?_eq_some {l r : List Char} (h : encodedPart? l = some r) : l = "xn--".toList ++ r := by
  rw [encodedPart?.eq_def] at h
  split at h
  · cases h
    rfl
  · cases h

/-! ## Forbidden characters -/

/-- What holds of all characters of ASCII can be checked one by one. -/
theorem forall_ascii {P : Char → Prop} (h : ∀ n < 128, P (Char.ofNat n)) (hc : c.toNat < 128) : P c := by
  have := h c.toNat hc
  rwa [Char.ofNat_toNat] at this

theorem ascii_of_isForbidden (hc : isForbidden c = true) : c.toNat < 128 := by
  have excluded : "#/:<>?@[\\]^|%".toList.all (fun d => d.toNat < 128) = true := by decide
  simp only [isForbidden, Bool.or_eq_true, decide_eq_true_eq, beq_iff_eq, List.contains_iff_mem] at hc
  rcases hc with (hc | hc) | hc
  · omega
  · omega
  · simpa using List.all_eq_true.mp excluded c hc

/-- A forbidden character is no letter, no digit, and no mark between labels or in front of digits. -/
theorem of_isForbidden (hc : isForbidden c = true) :
    c.toLower = c ∧ Punycode.digit? c = none ∧ c ≠ '.' ∧ c ≠ '-' := by
  refine forall_ascii (P := fun d => isForbidden d = true →
    d.toLower = d ∧ Punycode.digit? d = none ∧ d ≠ '.' ∧ d ≠ '-') ?_ (ascii_of_isForbidden hc) hc
  decide +kernel

/-- A label keeps a forbidden character at its end; an encoded one cannot have it there. -/
theorem mem_labelText? (hc : isForbidden c = true) {l t : List Char} (h : labelText? (l ++ [c]) = some t) : c ∈ t := by
  obtain ⟨-, hd, -, hm⟩ := of_isForbidden hc
  rw [labelText?] at h
  split at h
  · next r hr =>
    have hr := encodedPart?_eq_some hr
    rcases List.eq_nil_or_concat r with rfl | ⟨r', d, rfl⟩
    · have := congrArg List.getLast? hr
      simp at this
      exact absurd this hm
    · rw [List.concat_eq_append, ← List.append_assoc] at hr
      obtain ⟨-, hd'⟩ := List.append_inj' hr rfl
      rw [List.concat_eq_append, ← hd', decode?_concat hd hm] at h
      split at h <;> cases h
  · obtain ⟨rfl, -⟩ : l ++ [c] = t ∧ isLabel t = true := by simpa [Option.filter_eq_some_iff] using h
    simp

/-- The ASCII characters of a label are written as they are. -/
theorem mem_labelAscii? (hc : c.toNat < 128) {l t : List Char} (h : labelAscii? l = some t) (hl : c ∈ l) : c ∈ t := by
  rw [labelAscii?] at h
  split at h
  · cases h
    exact hl
  split at h
  · cases h
    rw [Punycode.encode, if_neg (by simpa using ⟨c, hl, hc⟩)]
    simp [hl, hc]
  · cases h

theorem mem_unicodeLabels? (hc : isForbidden c = true) {s : List Char} {texts : List (List Char)}
    (h : unicodeLabels? (s ++ [c]) = some texts) : ∃ t ∈ texts, c ∈ t := by
  obtain ⟨hl, -, hp, -⟩ := of_isForbidden hc
  have ha := ascii_of_isForbidden hc
  rw [unicodeLabels?, fold_concat ha, hl] at h
  simp only [Option.bind_eq_bind, Option.bind_eq_some_iff, Option.map_eq_some_iff] at h
  obtain ⟨-, ⟨folded, -, rfl⟩, us, hus, h⟩ := h
  obtain rfl : us = texts := by
    split at h
    · cases h
    · exact Option.some.inj h
  -- The character ends the last label.
  obtain ⟨ls, l, hcut⟩ : ∃ ls l, labels (compose folded) = ls ++ [l] :=
    ⟨_, _, (List.dropLast_concat_getLast (fields_ne_nil _ _)).symm⟩
  rw [compose_concat ha, labels, fields_append_of_free (by simpa using hp) hcut] at hus
  obtain ⟨t, ht, hlt⟩ := mem_of_mapM hus (List.mem_append_right ls (List.mem_singleton_self _))
  exact ⟨t, ht, mem_labelText? hc hlt⟩

theorem mem_ascii? (hc : isForbidden c = true) {s t : List Char} (h : ascii? (s ++ [c]) = some t) : c ∈ t := by
  simp only [ascii?] at h
  split at h
  · cases h
    simp [of_isForbidden hc]
  · simp only [Option.bind_eq_bind, Option.bind_eq_some_iff, Option.pure_def, Option.some.injEq] at h
    obtain ⟨texts, htexts, ts, hts, rfl⟩ := h
    obtain ⟨text, htext, hct⟩ := mem_unicodeLabels? hc htexts
    obtain ⟨t, ht, ha⟩ := mem_of_mapM hts htext
    exact mem_intercalate (mem_labelAscii? (ascii_of_isForbidden hc) ha hct) ht

/-- **A domain that ends in a forbidden character is none.** -/
theorem toAscii?_concat (hc : isForbidden c = true) (s : List Char) : toAscii? (s ++ [c]) = none := by
  rw [toAscii?]
  cases h : ascii? (s ++ [c]) with
  | none => rfl
  | some t =>
    have : t.any isForbidden = true := List.any_eq_true.mpr ⟨c, mem_ascii? hc h, hc⟩
    rw [Option.filter_some, this]
    rfl

end PaymentDesk.Url.Domain
