import PaymentDesk.Text.Line
import PaymentDesk.Text.Utf8

/-!
# Reading and writing UTF-8

* Reading undoes writing (`decode?_encode`, `decodeLossy_encode`), since each character is read back whatever follows
  it (`scan_encodeChar`).
* **The well-formed byte strings are the written texts** (`decode?_eq_some_iff`): a character that was read stands in
  front exactly as it is written (`eq_of_character`).
* A text ends in an ASCII character when its bytes do (`eq_concat_of_encode`).
* Cutting a written text at byte 10 gives its written lines (`byteLines_encode`), because no other character has this
  byte in it.
-/

namespace PaymentDesk.Text.Utf8

/-! ## Reading undoes writing -/

theorem encode_cons (c : Char) (s : List Char) : encode (c :: s) = encodeChar c ++ encode s := rfl

theorem encode_append (s t : List Char) : encode (s ++ t) = encode s ++ encode t := List.flatMap_append

theorem toNat_byte {x : Nat} (hx : x < 256) : (UInt8.ofNat x).toNat = x := by
  rw [UInt8.toNat_ofNat']
  exact Nat.mod_eq_of_lt hx

theorem eq_of_byte {x y : Nat} (hx : x < 256) (hy : y < 256) (h : UInt8.ofNat x = UInt8.ofNat y) : x = y := by
  have := congrArg UInt8.toNat h
  rwa [toNat_byte hx, toNat_byte hy] at this

/-- A trailing byte written for some low bits is read back as these bits. -/
theorem trailing_byte {lo hi x : Nat} (s : List UInt8) (hx : x < 256) (h : lo ≤ x ∧ x ≤ hi) :
    trailing lo hi (UInt8.ofNat x :: s) = some (x % 64, s) := by
  simp only [trailing, toNat_byte hx, if_pos h]

theorem plain_byte (k n x : Nat) (s : List UInt8) (hx : x < 64) :
    plain (k + 1) n (UInt8.ofNat (0x80 + x) :: s) = plain k (n * 64 + x) s := by
  have h : (0x80 + x) % 64 = x := by omega
  rw [plain, trailing_byte (x := 0x80 + x) s (by omega) (by omega), h]

/-- The code points of characters leave out the surrogates. -/
theorem toNat_valid (c : Char) : c.toNat < 0xD800 ∨ (0xDFFF < c.toNat ∧ c.toNat < 0x110000) := c.valid

theorem character_encodeChar (c : Char) (s : List UInt8) :
    ∃ b t, encodeChar c ++ s = b :: t ∧ character b t = (some c, s) := by
  have hc : Char.ofNat c.toNat = c := Char.ofNat_toNat c
  have hv := toNat_valid c
  generalize hn : c.toNat = n at hc hv
  simp only [encodeChar, hn]
  split
  · simp only [List.cons_append, List.nil_append]
    refine ⟨_, _, rfl, ?_⟩
    simp only [character, toNat_byte (show n < 256 by omega)]
    rw [if_pos (by omega), hc]
  split
  · simp only [List.cons_append, List.nil_append]
    refine ⟨_, _, rfl, ?_⟩
    simp only [character, toNat_byte (show 0xC0 + n / 64 < 256 by omega)]
    rw [if_neg (by omega), if_pos (by omega)]
    rw [plain_byte _ _ _ _ (by omega), plain, ← hc]
    congr 3; omega
  split
  · simp only [List.cons_append, List.nil_append]
    refine ⟨_, _, rfl, ?_⟩
    simp only [character, toNat_byte (show 0xE0 + n / 4096 < 256 by omega)]
    rw [if_neg (by omega), if_neg (by omega), if_pos (by omega)]
    rw [trailing_byte (x := 0x80 + n / 64 % 64) _ (by omega) (by constructor <;> split <;> omega)]
    simp only
    rw [plain_byte _ _ _ _ (by omega), plain, ← hc]
    congr 3; omega
  · simp only [List.cons_append, List.nil_append]
    refine ⟨_, _, rfl, ?_⟩
    simp only [character, toNat_byte (show 0xF0 + n / 262144 < 256 by omega)]
    rw [if_neg (by omega), if_neg (by omega), if_neg (by omega), if_pos (by omega)]
    rw [trailing_byte (x := 0x80 + n / 4096 % 64) _ (by omega) (by constructor <;> split <;> omega)]
    simp only
    rw [plain_byte _ _ _ _ (by omega), plain_byte _ _ _ _ (by omega), plain, ← hc]
    congr 3; omega

theorem scan_encodeChar (c : Char) (s : List UInt8) : scan (encodeChar c ++ s) = some c :: scan s := by
  obtain ⟨b, t, h, hs⟩ := character_encodeChar c s
  rw [h, scan, hs]

/-- Reading what was written gives the characters back, whatever follows. -/
theorem scan_encode (s : List Char) : scan (encode s) = s.map some := by
  induction s with
  | nil => simp [encode, scan]
  | cons c r ih => rw [encode_cons, scan_encodeChar, ih]; rfl

/-- All characters are there exactly in the images of texts. -/
theorem mapM_id_eq_some {l : List (Option Char)} {s : List Char} : l.mapM id = some s ↔ l = s.map some := by
  induction l generalizing s with
  | nil => cases s <;> simp
  | cons o l ih =>
    rw [List.mapM_cons]
    cases o with
    | none => cases s <;> simp
    | some c =>
      cases hl : l.mapM id with
      | none =>
        have hn : ∀ t : List Char, l ≠ t.map some := fun t h => by rw [ih.mpr h] at hl; cases hl
        cases s with
        | nil => simp
        | cons d t => simpa using fun _ => hn t
      | some t =>
        have ht := ih.mp hl
        cases s with
        | nil => simp
        | cons d u => simp [ht, List.map_inj_right]

theorem decode?_encode (s : List Char) : decode? (encode s) = some s := by
  rw [decode?, scan_encode, mapM_id_eq_some]

theorem decodeLossy_encode (s : List Char) : decodeLossy (encode s) = s := by
  simp [decodeLossy, scan_encode, Function.comp_def]

/-! ## Only what was written is read -/

theorem eq_of_trailing {lo hi x : Nat} {s r : List UInt8} (h : trailing lo hi s = some (x, r)) :
    ∃ b : UInt8, s = b :: r ∧ lo ≤ b.toNat ∧ b.toNat ≤ hi ∧ x = b.toNat % 64 := by
  cases s with
  | nil => cases h
  | cons b t =>
    simp only [trailing] at h
    split at h
    · next hb => cases h; exact ⟨b, rfl, hb.1, hb.2, rfl⟩
    · cases h

theorem eq_of_plain {k n : Nat} {s r : List UInt8} {c : Char} (h : plain (k + 1) n s = (some c, r)) :
    ∃ (b : UInt8) (t : List UInt8), s = b :: t ∧ 0x80 ≤ b.toNat ∧ b.toNat ≤ 0xBF ∧
      plain k (n * 64 + b.toNat % 64) t = (some c, r) := by
  simp only [plain] at h
  split at h
  · cases h
  · next x t ht =>
    obtain ⟨b, rfl, h1, h2, rfl⟩ := eq_of_trailing ht
    exact ⟨b, t, rfl, h1, h2, h⟩

theorem byte_eq {b : UInt8} {x : Nat} (h : x = b.toNat) : UInt8.ofNat x = b := by
  rw [h, UInt8.ofNat_toNat]

theorem toNat_ofNat {n : Nat} (h : n < 0xD800 ∨ (0xDFFF < n ∧ n < 0x110000)) : (Char.ofNat n).toNat = n := by
  have hv : n.isValidChar := h
  rw [Char.ofNat, dif_pos hv]
  rfl

theorem eq_of_plain_zero {n : Nat} {s r : List UInt8} {c : Char} (h : plain 0 n s = (some c, r))
    (hn : n < 0xD800 ∨ (0xDFFF < n ∧ n < 0x110000)) : s = r ∧ c.toNat = n := by
  cases h
  exact ⟨rfl, toNat_ofNat hn⟩

/-- A character that was read stands in front as it is written. -/
theorem eq_of_character {b : UInt8} {s r : List UInt8} {c : Char} (h : character b s = (some c, r)) :
    b :: s = encodeChar c ++ r := by
  have hb := b.toNat_lt
  simp only [character] at h
  split at h
  · cases h
    simp only [encodeChar, toNat_ofNat (Or.inl (show b.toNat < 0xD800 by omega))]
    rw [if_pos (by omega), byte_eq rfl]; rfl
  split at h
  · obtain ⟨b₁, t, rfl, h1, h2, h⟩ := eq_of_plain h
    obtain ⟨rfl, hc⟩ := eq_of_plain_zero h (by omega)
    simp only [encodeChar, hc]
    rw [if_neg (by omega), if_pos (by omega), byte_eq (b := b) (by omega), byte_eq (b := b₁) (by omega)]; rfl
  split at h
  · split at h
    · cases h
    next x t ht =>
    obtain ⟨b₁, rfl, h1, h2, rfl⟩ := eq_of_trailing ht
    obtain ⟨b₂, u, rfl, h3, h4, h⟩ := eq_of_plain h
    have hlo : b.toNat = 0xE0 → 0xA0 ≤ b₁.toNat := fun e => by rwa [if_pos e] at h1
    have hhi : b.toNat = 0xED → b₁.toNat ≤ 0x9F := fun e => by rwa [if_pos e] at h2
    have hb1 : 0x80 ≤ b₁.toNat ∧ b₁.toNat ≤ 0xBF := by split at h1 <;> split at h2 <;> omega
    obtain ⟨rfl, hc⟩ := eq_of_plain_zero h (by omega)
    simp only [encodeChar, hc]
    rw [if_neg (by omega), if_neg (by omega), if_pos (by omega), byte_eq (b := b) (by omega),
      byte_eq (b := b₁) (by omega), byte_eq (b := b₂) (by omega)]; rfl
  split at h
  · split at h
    · cases h
    next x t ht =>
    obtain ⟨b₁, rfl, h1, h2, rfl⟩ := eq_of_trailing ht
    obtain ⟨b₂, u, rfl, h3, h4, h⟩ := eq_of_plain h
    obtain ⟨b₃, v, rfl, h5, h6, h⟩ := eq_of_plain h
    have hlo : b.toNat = 0xF0 → 0x90 ≤ b₁.toNat := fun e => by rwa [if_pos e] at h1
    have hhi : b.toNat = 0xF4 → b₁.toNat ≤ 0x8F := fun e => by rwa [if_pos e] at h2
    have hb1 : 0x80 ≤ b₁.toNat ∧ b₁.toNat ≤ 0xBF := by split at h1 <;> split at h2 <;> omega
    obtain ⟨rfl, hc⟩ := eq_of_plain_zero h (by omega)
    simp only [encodeChar, hc]
    rw [if_neg (by omega), if_neg (by omega), if_neg (by omega), byte_eq (b := b) (by omega),
      byte_eq (b := b₁) (by omega), byte_eq (b := b₂) (by omega), byte_eq (b := b₃) (by omega)]; rfl
  · cases h

theorem eq_encode_of_scan {s : List UInt8} {t : List Char} (h : scan s = t.map some) : s = encode t := by
  induction t generalizing s with
  | nil =>
    cases s with
    | nil => rfl
    | cons b s => rw [scan] at h; cases h
  | cons c t ih =>
    cases s with
    | nil => rw [scan] at h; cases h
    | cons b s =>
      rw [scan, List.map_cons, List.cons.injEq] at h
      rw [encode_cons, ← ih h.2]
      exact eq_of_character (Prod.ext h.1 rfl)

/-- **The well-formed byte strings are the written texts.** -/
theorem decode?_eq_some_iff {s : List UInt8} {t : List Char} : decode? s = some t ↔ s = encode t := by
  rw [decode?, mapM_id_eq_some]
  refine ⟨eq_encode_of_scan, ?_⟩
  rintro rfl
  exact scan_encode t

/-! ## Last characters -/

/-- An ASCII character is written as one byte. -/
theorem encodeChar_ascii {c : Char} (hc : c.toNat < 128) : encodeChar c = [UInt8.ofNat c.toNat] := by
  rw [encodeChar]
  exact if_pos hc

/-- A byte of ASCII ends no character but its own. -/
theorem eq_of_getLast_encodeChar {c : Char} {n : Nat} (hn : n < 128)
    (h : (encodeChar c).getLast? = some (UInt8.ofNat n)) : c = Char.ofNat n := by
  have hv := toNat_valid c
  simp only [encodeChar] at h
  split at h
  · have h : UInt8.ofNat c.toNat = UInt8.ofNat n := by simpa using h
    rw [← eq_of_byte (by omega) (by omega) h, Char.ofNat_toNat]
  all_goals
    repeat' split at h
    all_goals
      have h : UInt8.ofNat (0x80 + c.toNat % 64) = UInt8.ofNat n := by simpa using h
      have := eq_of_byte (by omega) (by omega) h
      omega

theorem encodeChar_ne_nil (c : Char) : encodeChar c ≠ [] := by
  obtain ⟨b, t, h, -⟩ := character_encodeChar c []
  intro hn
  rw [hn] at h
  cases h

/-- A text whose bytes end in an ASCII character ends in it. -/
theorem eq_concat_of_encode {c : Char} (hc : c.toNat < 128) {t : List Char} {s : List UInt8}
    (h : encode t = s ++ encodeChar c) : ∃ p, t = p ++ [c] := by
  rcases List.eq_nil_or_concat t with rfl | ⟨p, d, rfl⟩
  · rw [encodeChar_ascii hc] at h
    simp [encode] at h
  · refine ⟨p, ?_⟩
    rw [List.concat_eq_append, encode_append, encodeChar_ascii hc] at h
    have hd : (encodeChar d).getLast? = some (UInt8.ofNat c.toNat) := by
      have := congrArg List.getLast? h
      simpa [encode, List.getLast?_append, encodeChar_ne_nil d] using this
    rw [List.concat_eq_append, eq_of_getLast_encodeChar hc hd, Char.ofNat_toNat]

/-! ## Lines -/

/-- Byte 10 is a line end and no part of another character. -/
theorem not_lineFeed_of_mem {c : Char} (hc : c ≠ '\n') : ∀ b ∈ encodeChar c, (b == 10) = false := by
  have hn : c.toNat ≠ 10 := fun h => hc (by rw [← Char.ofNat_toNat c, h])
  have key : ∀ x : Nat, x ≠ 10 → x < 256 → (UInt8.ofNat x == 10) = false := by
    intro x hx hlt
    rw [beq_eq_false_iff_ne]
    exact fun h => hx (eq_of_byte hlt (by omega) h)
  have hv := toNat_valid c
  intro b hb
  simp only [encodeChar] at hb
  split at hb
  · rw [List.mem_singleton.mp hb]; exact key _ hn (by omega)
  split at hb
  · simp only [List.mem_cons, List.not_mem_nil, or_false] at hb
    rcases hb with rfl | rfl <;> exact key _ (by omega) (by omega)
  split at hb
  · simp only [List.mem_cons, List.not_mem_nil, or_false] at hb
    rcases hb with rfl | rfl | rfl <;> exact key _ (by omega) (by omega)
  · simp only [List.mem_cons, List.not_mem_nil, or_false] at hb
    rcases hb with rfl | rfl | rfl | rfl <;> exact key _ (by omega) (by omega)

/-- A piece goes on through what holds no terminator. -/
theorem splitAfter_append {α : Type} {p : α → Bool} {s : List α} : ∀ {a : List α}, a ≠ [] → (∀ x ∈ a, p x = false) →
    splitAfter p (a ++ s) = match splitAfter p s with
      | [] => [a]
      | l :: ls => (a ++ l) :: ls
  | [], h, _ => absurd rfl h
  | [x], _, hp => by
    simp only [List.cons_append, List.nil_append, splitAfter, hp x List.mem_cons_self]
    rfl
  | x :: y :: a, _, hp => by
    have ih := splitAfter_append (s := s) (List.cons_ne_nil y a) fun z hz => hp z (List.mem_cons_of_mem x hz)
    rw [List.cons_append, splitAfter, if_neg (by simp [hp x List.mem_cons_self]), ih]
    cases splitAfter p s with
    | nil => rfl
    | cons l ls => rfl

/-- **The lines of a written text are its written lines.** -/
theorem byteLines_encode (s : List Char) : byteLines (encode s) = (lines s).map encode := by
  induction s with
  | nil => rfl
  | cons c r ih =>
    rw [byteLines, lines] at ih
    rw [byteLines, lines, encode_cons]
    by_cases hc : c = '\n'
    · subst hc
      rw [show encodeChar '\n' = [10] from rfl, List.singleton_append, splitAfter, splitAfter, if_pos (by decide),
        if_pos (by decide), ih]
      rfl
    · rw [splitAfter_append (encodeChar_ne_nil c) (not_lineFeed_of_mem hc), ih, splitAfter,
        if_neg (by simpa using hc)]
      cases splitAfter (· == '\n') r with
      | nil => simp [encode]
      | cons l ls => simp [encode_cons]

end PaymentDesk.Text.Utf8
