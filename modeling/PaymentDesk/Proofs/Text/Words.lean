import PaymentDesk.Error
import PaymentDesk.Proofs.Text.Unbroken

/-!
# What is left of a text in one line

The words of a text are its maximal runs of characters that are not blank: between two of them, and perhaps at the
ends, stand blanks only (`Runs`). Each text has one sequence of them, and `words` lists it (`words_eq_iff`). All that is
needed is that a blank keeps words apart (`words_append_blank`) and that a run is a word (`words_of_solid`).

A text in one line has the words that it had (`words_oneLine`), and no text with these words is shorter
(`length_oneLine_le`), so that none of its spaces can be missed (`space_apart`). **It keeps the words and nothing else**
(`oneLine_keeps_words`).
-/

namespace PaymentDesk.Text

/-- The maximal runs of a text: blanks, a run, and a rest that the run cannot go on into. -/
inductive Runs : List Char → List (List Char) → Prop where
  | blank {g : List Char} (gap : ∀ c ∈ g, isBlank c = true) : Runs g []
  | run {g w r : List Char} {ws : List (List Char)} (gap : ∀ c ∈ g, isBlank c = true) (nonempty : w ≠ [])
    (solid : ∀ c ∈ w, isBlank c = false) (ends : ∀ c, r.head? = some c → isBlank c = true) (rest : Runs r ws) :
    Runs (g ++ w ++ r) (w :: ws)

variable {s t w : List Char} {ws : List (List Char)} {c : Char}

theorem startsBlank_eq_true_iff : startsBlank s = true ↔ ∀ c, s.head? = some c → isBlank c = true := by
  cases s with
  | nil => exact iff_of_true rfl fun c h => by cases h
  | cons d r =>
    constructor
    · intro h c hc
      rw [← Option.some.inj hc]
      exact h
    · exact fun h => h d rfl

/-! ## Words, one after the other -/

theorem words_cons_of_blank (hc : isBlank c = true) (s : List Char) : words (c :: s) = words s := by
  rw [words, if_pos hc]

theorem words_ne_nil (h : startsBlank s = false) : words s ≠ [] := by
  cases s with
  | nil => cases h
  | cons c r =>
    have hc : ¬ isBlank c = true := by simpa [startsBlank] using h
    rw [words, if_neg hc]
    split
    · exact List.cons_ne_nil _ _
    · exact List.cons_ne_nil _ _

/-- **A blank keeps words apart.** -/
theorem words_append_blank (hc : isBlank c = true) (s t : List Char) : words (s ++ c :: t) = words s ++ words t := by
  induction s with
  | nil => exact words_cons_of_blank hc t
  | cons d r ih =>
    by_cases hd : isBlank d = true
    · rw [List.cons_append, words_cons_of_blank hd, words_cons_of_blank hd, ih]
    · have hstarts : startsBlank (r ++ c :: t) = startsBlank r := by
        cases r with
        | nil => exact hc
        | cons d' r' => rfl
      rw [List.cons_append, words, if_neg hd, words, if_neg hd, ih, hstarts]
      cases hr : startsBlank r with
      | true => rfl
      | false =>
        obtain ⟨w, ws, hws⟩ := List.exists_cons_of_ne_nil (words_ne_nil hr)
        rw [hws]
        rfl

theorem words_append_of_blank {gap : List Char} (h : ∀ c ∈ gap, isBlank c = true) (s : List Char) :
    words (gap ++ s) = words s := by
  induction gap with
  | nil => rfl
  | cons c r ih =>
    obtain ⟨hc, hr⟩ := List.forall_mem_cons.mp h
    rw [List.cons_append, words_cons_of_blank hc, ih hr]

/-- **A run is a word.** -/
theorem words_of_solid (hne : w ≠ []) (h : ∀ c ∈ w, isBlank c = false) : words w = [w] := by
  induction w with
  | nil => exact absurd rfl hne
  | cons c r ih =>
    obtain ⟨hc, hr⟩ := List.forall_mem_cons.mp h
    rw [words, if_neg (by rw [hc]; exact Bool.false_ne_true)]
    cases r with
    | nil => rfl
    | cons d r' =>
      have hd : startsBlank (d :: r') = false := hr d List.mem_cons_self
      rw [ih (List.cons_ne_nil d r') hr, hd]

/-! ## The runs of a text -/

theorem Runs.cons_blank (hc : isBlank c = true) (h : Runs s ws) : Runs (c :: s) ws := by
  cases h with
  | blank hgap => exact .blank (List.forall_mem_cons.mpr ⟨hc, hgap⟩)
  | @run g w r ws hgap hne hsolid hends hrest =>
    exact .run (g := c :: g) (List.forall_mem_cons.mpr ⟨hc, hgap⟩) hne hsolid hends hrest

/-- A run that a character comes next to takes it in. -/
theorem Runs.cons_solid (hc : isBlank c = false) (hs : startsBlank s = false) (h : Runs s (w :: ws)) :
    Runs (c :: s) ((c :: w) :: ws) := by
  cases h with
  | @run g w r ws hgap hne hsolid hends hrest =>
    cases g with
    | nil =>
      exact .run (g := []) hgap (List.cons_ne_nil c _) (List.forall_mem_cons.mpr ⟨hc, hsolid⟩) hends hrest
    | cons d g =>
      -- the text starts with a character of the run, not with a blank before it
      have hd : isBlank d = false := hs
      rw [hgap d List.mem_cons_self] at hd
      cases hd

theorem runs_words (s : List Char) : Runs s (words s) := by
  induction s with
  | nil => exact .blank (List.forall_mem_nil _)
  | cons c r ih =>
    by_cases hc : isBlank c = true
    · rw [words_cons_of_blank hc]
      exact ih.cons_blank hc
    · rw [words, if_neg hc]
      rw [Bool.not_eq_true] at hc
      cases hr : startsBlank r with
      | true =>
        exact .run (g := []) (List.forall_mem_nil _) (List.cons_ne_nil c []) (List.forall_mem_singleton.mpr hc)
          (startsBlank_eq_true_iff.mp hr) ih
      | false =>
        obtain ⟨w, ws, hws⟩ := List.exists_cons_of_ne_nil (words_ne_nil hr)
        rw [hws] at ih ⊢
        exact ih.cons_solid hc hr

theorem Runs.words_eq (h : Runs s ws) : words s = ws := by
  induction h with
  | @blank g hgap =>
    have hall := words_append_of_blank hgap []
    rwa [List.append_nil] at hall
  | @run g w r ws hgap hne hsolid hends hrest ih =>
    rw [List.append_assoc, words_append_of_blank hgap]
    cases r with
    | nil =>
      rw [List.append_nil, words_of_solid hne hsolid, ← ih]
      rfl
    | cons c r =>
      have hc : isBlank c = true := hends c rfl
      rw [words_append_blank hc, words_of_solid hne hsolid, ← ih, words_cons_of_blank hc]
      rfl

/-- **The words of a text are its maximal runs.** -/
theorem words_eq_iff : words s = ws ↔ Runs s ws := by
  constructor
  · rintro rfl
    exact runs_words s
  · exact Runs.words_eq

theorem Runs.solid (h : Runs s ws) : ∀ w ∈ ws, w ≠ [] ∧ ∀ c ∈ w, isBlank c = false := by
  induction h with
  | blank => exact List.forall_mem_nil _
  | run _ hne hsolid _ _ ih => exact List.forall_mem_cons.mpr ⟨⟨hne, hsolid⟩, ih⟩

/-! ## One line -/

/-- Words joined by spaces are the words of what they are joined to. -/
theorem words_intercalate (h : ∀ w ∈ ws, w ≠ [] ∧ ∀ c ∈ w, isBlank c = false) : words ([' '].intercalate ws) = ws := by
  induction ws with
  | nil => rfl
  | cons w r ih =>
    obtain ⟨⟨hne, hsolid⟩, hr⟩ := List.forall_mem_cons.mp h
    cases r with
    | nil => rw [List.intercalate_singleton, words_of_solid hne hsolid]
    | cons w' r' =>
      have hspace : isBlank ' ' = true := by decide
      rw [List.intercalate_cons_cons, List.append_assoc, List.singleton_append, words_append_blank hspace,
        words_of_solid hne hsolid, ih hr]
      rfl

/-- **One line has the words of the text.** -/
theorem words_oneLine (s : List Char) : words (oneLine s) = words s := words_intercalate (runs_words s).solid

theorem oneLine_eq_oneLine_iff : oneLine s = oneLine t ↔ words s = words t := by
  constructor
  · intro h
    rw [← words_oneLine s, h, words_oneLine]
  · intro h
    rw [oneLine, h, oneLine]

/-- Nothing is left exactly if there is no word. -/
theorem isEmpty_oneLine (s : List Char) : (oneLine s).isEmpty = s.all isBlank := by
  rw [Bool.eq_iff_iff, List.isEmpty_iff, List.all_eq_true]
  constructor
  · intro h
    have hwords : words s = [] := by
      rw [← words_oneLine, h, words]
    cases words_eq_iff.mp hwords with
    | blank hgap => exact hgap
  · intro h
    rw [oneLine, (Runs.blank h).words_eq]
    rfl

/-- **No text with these words is shorter.** One that starts with a blank before them is longer. -/
theorem length_oneLine_le (s : List Char) : (oneLine s).length ≤ s.length ∧
    (startsBlank s = true → words s ≠ [] → (oneLine s).length + 1 ≤ s.length) := by
  simp only [oneLine]
  induction s with
  | nil => exact ⟨Nat.le_refl 0, fun _ h => absurd rfl h⟩
  | cons c r ih =>
    obtain ⟨hle, hlt⟩ := ih
    by_cases hc : isBlank c = true
    · rw [words_cons_of_blank hc, List.length_cons]
      exact ⟨Nat.le_succ_of_le hle, fun _ _ => Nat.succ_le_succ hle⟩
    · refine ⟨?_, fun h => absurd h hc⟩
      rw [words, if_neg hc, List.length_cons]
      cases hr : startsBlank r with
      | true =>
        cases hws : words r with
        | nil => simp
        | cons w ws =>
          -- the space before the next word is paid for by the blank behind this one
          have hrest := hlt hr (by rw [hws]; exact List.cons_ne_nil w ws)
          rw [hws] at hrest
          simp only [List.intercalate_cons_cons, List.length_append, List.length_singleton]
          omega
      | false =>
        obtain ⟨w, ws, hws⟩ := List.exists_cons_of_ne_nil (words_ne_nil hr)
        rw [hws] at hle ⊢
        cases ws with
        | nil =>
          simp only [List.intercalate_singleton, List.length_cons] at hle ⊢
          omega
        | cons w' ws =>
          simp only [List.intercalate_cons_cons, List.length_append, List.length_cons] at hle ⊢
          omega

/-- **Every space in one line keeps two words apart**: without it the words would be others. -/
theorem space_apart {x y : List Char} (h : oneLine s = x ++ ' ' :: y) : words (x ++ y) ≠ words (x ++ ' ' :: y) := by
  intro hsame
  rw [← h, words_oneLine] at hsame
  have hshorter := (length_oneLine_le (x ++ y)).1
  rw [oneLine_eq_oneLine_iff.mpr hsame, h] at hshorter
  simp only [List.length_append, List.length_cons] at hshorter
  omega

/-- No blanks but spaces, and each of them alone and between other characters. -/
structure SinglySpaced (s : List Char) : Prop where
  blank : ∀ c ∈ s, isBlank c = true → c = ' '
  apart : ¬ [' ', ' '] <:+: s
  head : s.head? ≠ some ' '
  last : s.getLast? ≠ some ' '

theorem singlySpaced_oneLine (s : List Char) : SinglySpaced (oneLine s) where
  blank c hc hblank := by
    rcases of_mem_intercalate hc with hsep | ⟨w, hw, hc⟩
    · exact List.mem_singleton.mp hsep
    · rw [not_isBlank_of_mem_words hw c hc] at hblank
      cases hblank
  apart := by
    rintro ⟨x, y, h⟩
    have hspace : isBlank ' ' = true := by decide
    have hcut : oneLine s = x ++ ' ' :: ' ' :: y := by
      rw [← h, List.append_assoc]
      rfl
    apply space_apart hcut
    rw [words_append_blank hspace, words_append_blank hspace, words_cons_of_blank hspace]
  head h := by
    obtain ⟨y, hcut⟩ := List.head?_eq_some_iff.mp h
    exact space_apart (x := []) hcut (words_cons_of_blank (by decide) y).symm
  last h := by
    obtain ⟨x, hcut⟩ := List.getLast?_eq_some_iff.mp h
    apply space_apart hcut
    rw [words_append_blank (by decide), List.append_nil]
    exact (List.append_nil _).symm

/-- **One line keeps the words and nothing else.** Its blanks are single spaces between words, and its words are those
of the text, which alone decide what it is; so one line of one line is the same. An error of the service with it for a
body shows it exactly if there is a word in it. -/
theorem oneLine_keeps_words (s : List Char) :
    SinglySpaced (oneLine s) ∧
    (∃ ws, ∀ ws', Runs s ws' ↔ ws' = ws) ∧
    (∀ ws, Runs (oneLine s) ws ↔ Runs s ws) ∧
    (∀ t, oneLine s = oneLine t ↔ ∃ ws, Runs s ws ∧ Runs t ws) ∧
    oneLine (oneLine s) = oneLine s ∧
    ∀ code, (Error.status code (oneLine s)).message = "Service returned HTTP ".toList ++ Decimal.ofNat code ++
      if s.all isBlank then [] else ": ".toList ++ oneLine s := by
  refine ⟨singlySpaced_oneLine s, ⟨words s, fun ws => ?_⟩, fun ws => ?_, fun t => ?_, ?_, fun code => ?_⟩
  · rw [← words_eq_iff, eq_comm]
  · rw [← words_eq_iff, ← words_eq_iff, words_oneLine]
  · rw [oneLine_eq_oneLine_iff]
    constructor
    · intro h
      exact ⟨words t, words_eq_iff.mp h, runs_words t⟩
    · rintro ⟨ws, hs, ht⟩
      rw [hs.words_eq, ht.words_eq]
  · exact oneLine_eq_oneLine_iff.mpr (words_oneLine s)
  · have hmessage : (Error.status code (oneLine s)).message = "Service returned HTTP ".toList ++ Decimal.ofNat code ++
        if (oneLine s).isEmpty then [] else ": ".toList ++ oneLine s := rfl
    rw [hmessage, isEmpty_oneLine]

/-- Blanks of five kinds, at both ends and between the words. -/
example : oneLine "\t a\u00A0\r\nbc \u2003 d\u3000".toList = "a bc d".toList := by decide

end PaymentDesk.Text
