import PaymentDesk.Proofs.Url.Authority

/-!
# Percent-encoded texts read back

An encoded byte is read as itself (`decode_encodeByte`), and a text that is encoded after the fact stands for the same
bytes as before (`decode_encode`): a `%` is never encoded, and neither is a digit behind it.
-/

namespace PaymentDesk.Url.Percent

open Text

/-! ## Bytes -/

theorem digit?_upperDigit {n : Nat} (hn : n < 16) : Hexadecimal.digit? (upperDigit n) = some n := by
  have all : ∀ n < 16, Hexadecimal.digit? (upperDigit n) = some n := by decide
  exact all n hn

theorem decode_encodeByte (b : UInt8) (r : List Char) : decode (encodeByte b ++ r) = b :: decode r := by
  have hb := b.toNat_lt
  have hhigh := digit?_upperDigit (n := b.toNat / 16) (by omega)
  have hlow := digit?_upperDigit (n := b.toNat % 16) (by omega)
  have hsum : b.toNat / 16 * 16 + b.toNat % 16 = b.toNat := by omega
  simp only [encodeByte, List.cons_append, List.nil_append, decode, hhigh, hlow, hsum, UInt8.ofNat_toNat]

theorem decode_encodeBytes (bs : List UInt8) (r : List Char) :
    decode (bs.flatMap encodeByte ++ r) = bs ++ decode r := by
  induction bs with
  | nil => rfl
  | cons b bs ih => rw [List.flatMap_cons, List.append_assoc, decode_encodeByte, ih, List.cons_append]

/-- An encoded byte consists of a `%` and two digits. -/
theorem mem_encodeByte {b : UInt8} {c : Char} (h : c ∈ encodeByte b) : c = '%' ∨ ∃ n < 16, c = upperDigit n := by
  have hb := b.toNat_lt
  simp only [encodeByte, List.mem_cons, List.not_mem_nil, or_false] at h
  rcases h with h | h | h
  · exact .inl h
  · exact .inr ⟨_, by omega, h⟩
  · exact .inr ⟨_, by omega, h⟩

/-! ## Texts -/

theorem encode_cons (keep : Char → Bool) (c : Char) (r : List Char) :
    encode keep (c :: r) = (if keep c then [c] else encodeChar c) ++ encode keep r := rfl

/-- What is not kept is encoded bytes. -/
theorem mem_encode {keep : Char → Bool} {c : Char} {s : List Char} (h : c ∈ encode keep s) :
    keep c = true ∨ c = '%' ∨ ∃ n < 16, c = upperDigit n := by
  obtain ⟨d, -, hc⟩ := List.mem_flatMap.mp h
  split at hc
  · next hkeep =>
    rw [List.mem_singleton.mp hc]
    exact .inl hkeep
  · obtain ⟨b, -, hb⟩ := List.mem_flatMap.mp hc
    exact .inr (mem_encodeByte hb)

/-- A text whose every `%` is encoded stands for its own bytes. -/
theorem decode_encode_of_percent {keep : Char → Bool} (h : keep '%' = false) (s : List Char) :
    decode (encode keep s) = Utf8.encode s := by
  induction s with
  | nil => rfl
  | cons c r ih =>
    rw [encode_cons, Utf8.encode_cons]
    split
    · next hkeep =>
      have hc : c ≠ '%' := by
        rintro rfl
        rw [h] at hkeep
        cases hkeep
      rw [List.singleton_append, decode_cons (fun _ _ _ hd => absurd hd hc), ih]
    · rw [encodeChar, decode_encodeBytes, ih]

/-- A text begins as before after encoding, or with a `%`. -/
theorem head_encode (keep : Char → Bool) (c : Char) (r : List Char) :
    encode keep (c :: r) = c :: encode keep r ∨ ∃ t, encode keep (c :: r) = '%' :: t := by
  rw [encode_cons]
  split
  · exact .inl rfl
  · obtain ⟨b, bs, hb⟩ := List.exists_cons_of_ne_nil (Utf8.encodeChar_ne_nil c)
    rw [encodeChar, hb]
    exact .inr ⟨_, rfl⟩

/-- No encoded byte goes on into this text. -/
def StartsNoByte (r : List Char) : Prop :=
  ∀ a b r', r = a :: b :: r' → Hexadecimal.digit? a = none ∨ Hexadecimal.digit? b = none

theorem StartsNoByte.encode {r : List Char} (h : StartsNoByte r) (keep : Char → Bool) :
    StartsNoByte (encode keep r) := by
  have percent : Hexadecimal.digit? '%' = none := rfl
  intro a b t ht
  rcases r with _ | ⟨a', r⟩
  · cases ht
  rcases head_encode keep a' r with hstay | ⟨t', henc⟩
  · obtain ⟨rfl, htail⟩ := List.cons.inj (hstay.symm.trans ht)
    rcases r with _ | ⟨b', r⟩
    · cases htail
    rcases head_encode keep b' r with hstay' | ⟨t', henc⟩
    · obtain ⟨rfl, -⟩ := List.cons.inj (hstay'.symm.trans htail)
      exact h a' b' r rfl
    · obtain ⟨rfl, -⟩ := List.cons.inj (henc.symm.trans htail)
      exact .inr percent
  · obtain ⟨rfl, -⟩ := List.cons.inj (henc.symm.trans ht)
    exact .inl percent

/-- **Encoding leaves the bytes of a text as they are**, if it keeps what an encoded byte consists of. -/
theorem decode_encode {keep : Char → Bool} (hpercent : keep '%' = true)
    (hdigit : ∀ c, (Hexadecimal.digit? c).isSome → keep c = true) (s : List Char) :
    decode (encode keep s) = decode s := by
  have step (d : Char) (r : List Char) (hr : d = '%' → StartsNoByte r) (ih : decode (encode keep r) = decode r) :
      decode (encode keep (d :: r)) = Utf8.encodeChar d ++ decode r := by
    rw [encode_cons]
    split
    · rw [List.singleton_append, decode_cons (fun a b r' hd => (hr hd).encode keep a b r'), ih]
    · rw [encodeChar, decode_encodeBytes, ih]
  fun_induction decode s with
  | case1 => rfl
  | case2 a b r m n hm hn ih =>
    have ha : keep a = true := hdigit a (by rw [hn]; rfl)
    have hb : keep b = true := hdigit b (by rw [hm]; rfl)
    simp only [encode_cons, hpercent, ha, hb, if_true, List.singleton_append, decode, hm, hn, ih]
  | case3 a b r h ih =>
    refine step '%' (a :: b :: r) (fun _ a' b' r' heq => ?_) ih
    cases heq
    cases ha : Hexadecimal.digit? a with
    | none => exact .inl rfl
    | some m => exact .inr (Option.eq_none_iff_forall_ne_some.mpr fun n hn => h m n ha hn)
  | case4 d r h ih =>
    refine step d r (fun hd a b r' hr => ?_) ih
    exact absurd hr (h a b r' hd)

end PaymentDesk.Url.Percent
