import PaymentDesk.Proofs.Text.Utf8
import PaymentDesk.Proofs.Url.Append
import PaymentDesk.Proofs.Url.Percent
import PaymentDesk.Url.Percent

/-!
# Queries read back

A form-encoded text holds none of the characters that a query is cut at (`separators_not_mem`), and stands for the text
it was made from (`decodeText_encodeText`). **So a query stands for the pairs it was made from** (`decode_encode`),
whatever characters they hold.
-/

namespace PaymentDesk.Url.Form

open Text

/-! ## Keys and values -/

/-- The characters that need no bytes of their own: the plain ones, and the space, for which a `+` is written. -/
def isKept (c : Char) : Bool := c == ' ' || isPlain c

/-- A `+` is read as a space. -/
def unplus (c : Char) : Char := if c = '+' then ' ' else c

theorem unplus_encodeChar (c : Char) : (Percent.encodeChar c).map unplus = Percent.encodeChar c := by
  have hdigit : ∀ n < 16, Percent.upperDigit n ≠ '+' := by decide
  have hsame : ∀ d ∈ Percent.encodeChar c, unplus d = id d := by
    intro d hd
    obtain ⟨b, -, hb⟩ := List.mem_flatMap.mp hd
    rcases Percent.mem_encodeByte hb with rfl | ⟨n, hn, rfl⟩
    · rfl
    · exact if_neg (hdigit n hn)
  rw [List.map_congr_left hsame, List.map_id]

/-- A form-encoded text is a percent-encoded one in which spaces are written as `+`. -/
theorem unplus_encodeText (s : List Char) : (encodeText s).map unplus = Percent.encode isKept s := by
  induction s with
  | nil => rfl
  | cons c r ih =>
    have hcons : encodeText (c :: r) =
        (if c = ' ' then ['+'] else if isPlain c then [c] else Percent.encodeChar c) ++ encodeText r := rfl
    rw [hcons, List.map_append, Percent.encode_cons, ih, isKept]
    by_cases hspace : c = ' '
    · rw [hspace]
      rfl
    · rw [if_neg hspace, beq_false_of_ne hspace, Bool.false_or]
      split
      · next hplain =>
        have hc : c ≠ '+' := by
          rintro rfl
          exact absurd hplain (by decide)
        rw [List.map_singleton, unplus, if_neg hc]
      · rw [unplus_encodeChar]

/-- **A form-encoded text is read back.** -/
theorem decodeText_encodeText (s : List Char) : decodeText (encodeText s) = s := by
  have hbytes : Percent.decode ((encodeText s).map unplus) = Utf8.encode s := by
    rw [unplus_encodeText, Percent.decode_encode_of_percent (by decide)]
  rw [decodeText]
  exact (congrArg Utf8.decodeLossy hbytes).trans (Utf8.decodeLossy_encode s)

/-- The characters of an encoded text. -/
theorem mem_encodeText {c : Char} {s : List Char} (h : c ∈ encodeText s) :
    c = '+' ∨ isPlain c = true ∨ c = '%' ∨ ∃ n < 16, c = Percent.upperDigit n := by
  obtain ⟨d, -, hc⟩ := List.mem_flatMap.mp h
  split at hc
  · exact .inl (List.mem_singleton.mp hc)
  split at hc
  · next hplain =>
    rw [List.mem_singleton.mp hc]
    exact .inr (.inl hplain)
  · obtain ⟨b, -, hb⟩ := List.mem_flatMap.mp hc
    exact .inr (.inr (Percent.mem_encodeByte hb))

/-- No character that a query is cut at is left. -/
theorem separators_not_mem {c : Char} {s : List Char} (h : c ∈ encodeText s) : c ≠ '&' ∧ c ≠ '=' := by
  have hdigit : ∀ n < 16, Percent.upperDigit n ≠ '&' ∧ Percent.upperDigit n ≠ '=' := by decide
  rcases mem_encodeText h with rfl | hplain | rfl | ⟨n, hn, rfl⟩
  · decide
  · constructor <;>
      · rintro rfl
        exact absurd hplain (by decide)
  · decide
  · exact hdigit n hn

/-! ## Queries -/

theorem decodePair_encodePair (p : List Char × List Char) : decodePair (encodePair p) = p := by
  have hkey : ∀ c ∈ encodeText p.1, (c != '=') = true := fun c hc => bne_iff_ne.mpr (separators_not_mem hc).2
  rw [decodePair, encodePair, List.takeWhile_append_of_pos hkey, List.dropWhile_append_of_pos hkey,
    List.takeWhile_cons_of_neg (by decide), List.dropWhile_cons_of_neg (by decide), List.append_nil, List.drop_one,
    List.tail_cons, decodeText_encodeText, decodeText_encodeText]

/-- A pair is one field, and not an empty one. -/
theorem fields_encodePair (p : List Char × List Char) :
    fields (· == '&') (encodePair p) = [encodePair p] ∧ (encodePair p).isEmpty = false := by
  constructor
  · refine fields_eq_singleton fun c hc => ?_
    rw [beq_eq_false_iff_ne]
    rcases List.mem_append.mp hc with hc | hc
    · exact (separators_not_mem hc).1
    · rcases List.mem_cons.mp hc with rfl | hc
      · decide
      · exact (separators_not_mem hc).1
  · rw [encodePair, List.isEmpty_eq_false_iff]
    exact List.append_ne_nil_of_right_ne_nil _ (List.cons_ne_nil _ _)

/-- Behind an `&` a query goes on with pairs of its own. -/
theorem decode_append (s t : List Char) : decode (s ++ '&' :: t) = decode s ++ decode t := by
  rw [decode, fields_append (p := (· == '&')) (c := '&') rfl, List.filter_append, List.map_append]
  rfl

theorem decode_encodePair (p : List Char × List Char) : decode (encodePair p) = [p] := by
  obtain ⟨hfield, hne⟩ := fields_encodePair p
  rw [decode, hfield, List.filter_cons_of_pos (by simp [hne]), List.filter_nil, List.map_singleton,
    decodePair_encodePair]

/-- **A query is read back.** -/
theorem decode_encode (ps : List (List Char × List Char)) : decode (encode ps) = ps := by
  induction ps with
  | nil => rfl
  | cons p ps ih =>
    cases ps with
    | nil =>
      have hone : encode [p] = encodePair p := by simp [encode]
      rw [hone, decode_encodePair]
    | cons q ps =>
      have hmore : encode (p :: q :: ps) = encodePair p ++ '&' :: encode (q :: ps) := by
        simp [encode, List.intercalate_cons_cons]
      rw [hmore, decode_append, decode_encodePair, ih, List.singleton_append]

end PaymentDesk.Url.Form
