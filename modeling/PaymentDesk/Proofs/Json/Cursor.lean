import PaymentDesk.Json.Printer
import PaymentDesk.Proofs.Text.Decimal
import PaymentDesk.Text.Blank

/-!
# Reading a document by its characters

A cursor runs over the text of a document and knows of each place whether it lies in a text between quotes, and how many
arrays and objects are open there. It knows nothing of the value that was written. `squeeze` leaves the blanks out that
lie outside such texts, and `Everywhere` says something of every place; both go along with putting texts together
(`squeeze_append`, `everywhere_append`).

At the end, what the cursor does over quoted texts and numbers: between quotes it stays in the text, and no line ends
there (`within_escapes`); a number is a literal, of which no character moves it (`literal_text`).
-/

namespace PaymentDesk.Json

open PaymentDesk.Text

/-- The brackets that open an array or an object. -/
def opens (c : Char) : Bool := c == '[' || c == '\x7b'

/-- The brackets that close one. -/
def closes (c : Char) : Bool := c == ']' || c == '\x7d'

/-- The bracket that closes what a bracket opens. -/
def closing (c : Char) : Char := if c = '[' then ']' else '\x7d'

theorem opens_iff {c : Char} : opens c = true ↔ c = '[' ∨ c = '\x7b' := by simp [opens]

theorem closes_iff {c : Char} : closes c = true ↔ c = ']' ∨ c = '\x7d' := by simp [closes]

/-- A place in a document: inside so many arrays and objects, and outside of quoted texts, in one, or in one behind a
backslash. -/
inductive Cursor where
  | outside (depth : Nat)
  | inText (depth : Nat)
  | escaping (depth : Nat)
  deriving DecidableEq, Repr

namespace Cursor

/-- The number of arrays and objects that are open. -/
def depth : Cursor → Nat
  | outside depth | inText depth | escaping depth => depth

/-- The place is outside of quoted texts. -/
def isOutside : Cursor → Bool
  | outside _ => true
  | inText _ | escaping _ => false

/-- The place behind a character. -/
def step : Cursor → Char → Cursor
  | outside depth, c =>
    if c = '"' then inText depth
    else if opens c then outside (depth + 1)
    else if closes c then outside (depth - 1)
    else outside depth
  | inText depth, c => if c = '"' then outside depth else if c = '\\' then escaping depth else inText depth
  | escaping depth, _ => inText depth

/-- The place behind a text. -/
def read (s : Cursor) (t : List Char) : Cursor := t.foldl step s

theorem read_append (s : Cursor) (t u : List Char) : s.read (t ++ u) = (s.read t).read u := List.foldl_append

end Cursor

/-- A text without the blanks outside of its quoted texts. -/
def squeeze : Cursor → List Char → List Char
  | _, [] => []
  | s, c :: r => if s.isOutside && isBlank c then squeeze (s.step c) r else c :: squeeze (s.step c) r

/-- At every place of a text that `rest` follows, something holds of the place, of the character there and of what comes
behind it. -/
def Everywhere (P : Cursor → Char → List Char → Prop) (rest : List Char) : Cursor → List Char → Prop
  | _, [] => True
  | s, c :: r => P s c (r ++ rest) ∧ Everywhere P rest (s.step c) r

section Laws

variable {P : Cursor → Char → List Char → Prop} {s : Cursor} {t u rest : List Char}

theorem squeeze_append (s : Cursor) (t u : List Char) : squeeze s (t ++ u) = squeeze s t ++ squeeze (s.read t) u := by
  induction t generalizing s with
  | nil => rfl
  | cons c r ih =>
    rw [List.cons_append, squeeze, squeeze, ih]
    split
    · rfl
    · rfl

theorem everywhere_append :
    Everywhere P rest s (t ++ u) ↔ Everywhere P (u ++ rest) s t ∧ Everywhere P rest (s.read t) u := by
  induction t generalizing s with
  | nil => exact (and_iff_right trivial).symm
  | cons c r ih =>
    rw [List.cons_append, Everywhere, Everywhere, ih, List.append_assoc, and_assoc]
    rfl

/-- What holds everywhere in a text holds at a place of it. -/
theorem Everywhere.at {before after : List Char} {c : Char} (h : Everywhere P [] s (before ++ c :: after)) :
    P (s.read before) c after := by
  obtain ⟨-, hplace, -⟩ := everywhere_append.mp h
  rwa [List.append_nil] at hplace

end Laws

/-! ## Quoted texts -/

/-- The cursor stays in a quoted text, and no line ends there. -/
inductive Within : List Char → Prop where
  | nil : Within []
  | plain {c : Char} {t : List Char} (quote : c ≠ '"') (backslash : c ≠ '\\') (lineFeed : c ≠ '\n') (next : Within t) :
    Within (c :: t)
  | escaped {c : Char} {t : List Char} (lineFeed : c ≠ '\n') (next : Within t) : Within ('\\' :: c :: t)

theorem Within.append {t u : List Char} (ht : Within t) (hu : Within u) : Within (t ++ u) := by
  induction ht with
  | nil => exact hu
  | plain quote backslash lineFeed _ ih => exact .plain quote backslash lineFeed ih
  | escaped lineFeed _ ih => exact .escaped lineFeed ih

theorem hexDigit_ne {n : Nat} (h : n < 16) : hexDigit n ≠ '"' ∧ hexDigit n ≠ '\\' ∧ hexDigit n ≠ '\n' := by
  have all : ∀ n, n < 16 → hexDigit n ≠ '"' ∧ hexDigit n ≠ '\\' ∧ hexDigit n ≠ '\n' := by decide
  exact all n h

theorem within_escape (c : Char) : Within (escape c) := by
  unfold escape
  split
  · exact .escaped (by decide) .nil
  next hquote =>
  split
  · exact .escaped (by decide) .nil
  next hbackslash =>
  iterate 2
    split
    · exact .escaped (by decide) .nil
  split
  · exact .escaped (by decide) .nil
  next hlineFeed =>
  iterate 2
    split
    · exact .escaped (by decide) .nil
  split
  · next hcontrol =>
    obtain ⟨hq, hb, hl⟩ := hexDigit_ne (n := c.toNat / 16) (by omega)
    obtain ⟨hq', hb', hl'⟩ := hexDigit_ne (n := c.toNat % 16) (by omega)
    have hzero {t : List Char} (h : Within t) : Within ('0' :: t) := .plain (by decide) (by decide) (by decide) h
    exact .escaped (by decide) (hzero (hzero (.plain hq hb hl (.plain hq' hb' hl' .nil))))
  · exact .plain hquote hbackslash hlineFeed .nil

theorem within_escapes (s : List Char) : Within (s.flatMap escape) := by
  induction s with
  | nil => exact .nil
  | cons c s ih => exact (within_escape c).append ih

theorem Within.read {t : List Char} (h : Within t) (depth : Nat) : (Cursor.inText depth).read t = .inText depth := by
  induction h with
  | nil => rfl
  | plain quote backslash _ _ ih =>
    rw [Cursor.read, List.foldl_cons, Cursor.step, if_neg quote, if_neg backslash]
    exact ih
  | escaped _ _ ih => exact ih

theorem Within.squeeze_eq {t : List Char} (h : Within t) (depth : Nat) : squeeze (.inText depth) t = t := by
  induction h with
  | nil => rfl
  | plain quote backslash _ _ ih =>
    simp only [squeeze, Cursor.isOutside, Bool.false_and, Bool.false_eq_true, if_false, Cursor.step, if_neg quote,
      if_neg backslash, ih]
  | @escaped c t _ _ ih => exact congrArg (fun u => '\\' :: c :: u) ih

/-- What holds in quoted texts wherever no line ends holds everywhere in this one. -/
theorem Within.everywhere {P : Cursor → Char → List Char → Prop} {t rest : List Char} (h : Within t) (depth : Nat)
    (hP : ∀ s c next, s.isOutside = false → c ≠ '\n' → P s c next) : Everywhere P rest (.inText depth) t := by
  induction h with
  | nil => trivial
  | plain quote backslash lineFeed _ ih =>
    rw [Everywhere, Cursor.step, if_neg quote, if_neg backslash]
    exact ⟨hP _ _ _ rfl lineFeed, ih⟩
  | escaped lineFeed _ ih => exact ⟨hP _ _ _ rfl (by decide), hP _ _ _ rfl lineFeed, ih⟩

/-! ## Numbers -/

/-- A character that neither moves the cursor nor ends an item, and is no blank. -/
def Plain (c : Char) : Prop := c ≠ '"' ∧ c ≠ ',' ∧ opens c = false ∧ closes c = false ∧ isBlank c = false

instance (c : Char) : Decidable (Plain c) := inferInstanceAs (Decidable (_ ∧ _))

theorem plain_of_all {t : List Char} (h : t.all (fun c => decide (Plain c)) = true) : ∀ c ∈ t, Plain c :=
  fun c hc => of_decide_eq_true (List.all_eq_true.mp h c hc)

theorem plain_of_digit {c : Char} (h : (Decimal.digit? c).isSome = true) : Plain c := by
  have hrange : '0' ≤ c ∧ c ≤ '9' := by
    rw [Decimal.digit?] at h
    split at h
    · next hrange => exact hrange
    · cases h
  have hlow : 48 ≤ c.toNat := hrange.1
  have hhigh : c.toNat ≤ 57 := hrange.2
  have hne {d : Char} (hd : ¬ (48 ≤ d.toNat ∧ d.toNat ≤ 57)) : c ≠ d := fun heq => hd (heq ▸ ⟨hlow, hhigh⟩)
  refine ⟨hne (by decide), hne (by decide), ?_, ?_, ?_⟩
  · simp [opens, hne (d := '[') (by decide), hne (d := '\x7b') (by decide)]
  · simp [closes, hne (d := ']') (by decide), hne (d := '\x7d') (by decide)]
  · simp [isBlank]
    omega

theorem plain_ofNat (n : Nat) : ∀ c ∈ Decimal.ofNat n, Plain c := fun _ hc =>
  plain_of_digit (Decimal.digit_of_mem_ofNat hc)

theorem plain_multiple (n : Nat) (t : Int) : ∀ c ∈ (Binary.multiple n t).digits, Plain c := by
  intro c hc
  rw [Binary.multiple, Binary.strip, List.mem_reverse] at hc
  exact plain_ofNat n c (List.mem_reverse.mp ((List.dropWhile_sublist _).subset hc))

theorem plain_shortest (b : Binary) : ∀ c ∈ b.shortest.digits, Plain c := by
  suffices h : ∀ k fuel n, ∀ c ∈ (b.shortestFrom k fuel n).digits, Plain c from h _ _ _
  intro k fuel n
  induction fuel generalizing n with
  | zero => exact plain_multiple _ _
  | succ fuel ih =>
    rw [Binary.shortestFrom]
    split
    · exact ih (n + 1)
    · exact plain_multiple _ _

variable {d : Decimals}

theorem plain_plainNotation (h : ∀ c ∈ d.digits, Plain c) : ∀ c ∈ plainNotation d, Plain c := by
  intro c hc
  rw [plainNotation] at hc
  split at hc
  · simp only [List.mem_cons, List.mem_append, List.mem_replicate] at hc
    rcases hc with rfl | rfl | ⟨-, rfl⟩ | hc
    · decide
    · decide
    · decide
    · exact h c hc
  · simp only at hc
    split at hc
    · simp only [List.mem_cons, List.mem_append] at hc
      rcases hc with hc | rfl | hc
      · exact h c (List.mem_of_mem_take hc)
      · decide
      · exact h c (List.mem_of_mem_drop hc)
    · simp only [List.mem_cons, List.mem_append, List.mem_replicate, List.not_mem_nil, or_false] at hc
      rcases hc with (hc | ⟨-, rfl⟩) | rfl | rfl
      · exact h c hc
      · decide
      · decide
      · decide

theorem plain_scientificNotation (h : ∀ c ∈ d.digits, Plain c) : ∀ c ∈ scientificNotation d, Plain c := by
  intro c hc
  simp only [scientificNotation, List.mem_append, List.mem_cons] at hc
  rcases hc with (hc | hc) | rfl | rfl | hc
  · exact h c (List.mem_of_mem_take hc)
  · split at hc
    · cases hc
    · rcases List.mem_cons.mp hc with rfl | hc
      · decide
      · exact h c (List.mem_of_mem_drop hc)
  · decide
  · split
    · decide
    · decide
  · exact plain_ofNat _ c hc

/-- Words and numbers: one or more plain characters. -/
def Literal (t : List Char) : Prop := t ≠ [] ∧ ∀ c ∈ t, Plain c

theorem literal_realText (x : Float) : Literal (realText x) := by
  have hsign {t : List Char} (h : Literal t) : Literal (if x.toBits.toNat < Nat.pow 2 63 then t else '-' :: t) := by
    split
    · exact h
    · exact ⟨List.cons_ne_nil _ _, List.forall_mem_cons.mpr ⟨by decide, h.2⟩⟩
  rw [realText]
  refine hsign ?_
  split
  · exact ⟨List.cons_ne_nil _ _, plain_of_all rfl⟩
  · next b _ =>
    have hdigits := plain_shortest b
    simp only
    split
    · refine ⟨?_, plain_plainNotation hdigits⟩
      rw [plainNotation]
      split
      · exact List.cons_ne_nil _ _
      · simp only
        split
        · simp
        · simp
    · refine ⟨?_, plain_scientificNotation hdigits⟩
      simp [scientificNotation]

/-- **A number is a literal.** -/
theorem literal_text (n : Number) : Literal n.text := by
  cases n with
  | int n =>
    cases n with
    | ofNat n => exact ⟨Decimal.ofNat_ne_nil n, plain_ofNat n⟩
    | negSucc n => exact ⟨List.cons_ne_nil _ _, List.forall_mem_cons.mpr ⟨by decide, plain_ofNat (n + 1)⟩⟩
  | real x => exact literal_realText x

theorem literal_boolText (b : Bool) : Literal (boolText b) := by
  cases b with
  | true => exact ⟨by decide, plain_of_all rfl⟩
  | false => exact ⟨by decide, plain_of_all rfl⟩

end PaymentDesk.Json
