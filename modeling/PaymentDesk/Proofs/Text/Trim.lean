import PaymentDesk.Text.Blank
import PaymentDesk.Text.Line

/-!
# Trimmed texts

A trimmed text is a part of the text (`trim_isInfix`) that neither starts nor ends with a blank, so trimming it once
more changes nothing (`trim_trim`). A line holds a line end at its end only, where it counts for nothing: **a trimmed
line is free of line ends** (`lineEnd_not_mem_trim`).
-/

namespace PaymentDesk.Text

theorem trimEnd_isPrefix (s : List Char) : trimEnd s <+: s := by
  rw [trimEnd, ← List.reverse_suffix, List.reverse_reverse]
  exact List.dropWhile_suffix _

theorem trim_isInfix (s : List Char) : trim s <:+: s :=
  (trimEnd_isPrefix _).isInfix.trans (List.dropWhile_suffix _).isInfix

theorem head_dropWhile {p : Char → Bool} {s : List Char} {c : Char} (h : (s.dropWhile p).head? = some c) :
    p c = false := by
  have hnot := List.head?_dropWhile_not p s
  rw [h] at hnot
  simpa using hnot

/-- A trimmed text does not end in a blank. -/
theorem not_isBlank_of_trim {s : List Char} {c : Char} (h : (trim s).getLast? = some c) : isBlank c = false := by
  rw [trim, trimEnd, List.getLast?_reverse] at h
  exact head_dropWhile h

theorem head_trim {s : List Char} {c : Char} (h : (trim s).head? = some c) : isBlank c = false := by
  obtain ⟨t, ht⟩ := trimEnd_isPrefix (trimStart s)
  have hstart : (trimStart s).head? = some c := by
    rw [← ht, List.head?_append]
    show (trim s).head?.or _ = _
    rw [h]
    rfl
  exact head_dropWhile hstart

theorem dropWhile_eq_self {p : Char → Bool} {s : List Char} (h : ∀ c, s.head? = some c → p c = false) :
    s.dropWhile p = s := by
  cases s with
  | nil => rfl
  | cons c r => rw [List.dropWhile_cons_of_neg (by rw [h c rfl]; exact Bool.false_ne_true)]

/-- Trimming once is enough. -/
theorem trim_trim (s : List Char) : trim (trim s) = trim s := by
  have hstart : trimStart (trim s) = trim s := dropWhile_eq_self fun _ => head_trim
  have hend : trimEnd (trim s) = trim s := by
    rw [trimEnd, dropWhile_eq_self fun c hc => not_isBlank_of_trim (List.head?_reverse ▸ hc), List.reverse_reverse]
  rw [trim, hstart, hend]

/-- A text that is not empty, and neither starts nor ends with a blank. -/
def Tight (s : List Char) : Prop :=
  s ≠ [] ∧ (∀ c, s.head? = some c → isBlank c = false) ∧ ∀ c, s.getLast? = some c → isBlank c = false

theorem tight_trim {s : List Char} (h : trim s ≠ []) : Tight (trim s) :=
  ⟨h, fun _ => head_trim, fun _ => not_isBlank_of_trim⟩

/-- Only the blanks behind a text without blanks are trimmed. -/
theorem trim_append_of_blank {s t : List Char} (hs : ∀ c ∈ s, isBlank c = false) (hne : s ≠ [])
    (ht : ∀ c ∈ t, isBlank c = true) : trim (s ++ t) = s := by
  have hstart : trimStart (s ++ t) = s ++ t := by
    obtain ⟨d, r, rfl⟩ := List.exists_cons_of_ne_nil hne
    refine dropWhile_eq_self fun c hc => ?_
    rw [← Option.some.inj hc]
    exact hs d List.mem_cons_self
  have hend : s.reverse.dropWhile isBlank = s.reverse := by
    refine dropWhile_eq_self fun c hc => hs c ?_
    exact List.mem_reverse.mp (List.mem_of_mem_head? hc)
  rw [trim, hstart, trimEnd, List.reverse_append,
    List.dropWhile_append_of_pos fun c hc => ht c (List.mem_reverse.mp hc), hend, List.reverse_reverse]

/-- A piece ends where an element ends it. -/
theorem not_of_mem_splitAfter {p : Char → Bool} {s l : List Char} (h : l ∈ splitAfter p s) :
    ∀ c ∈ l.dropLast, p c = false := by
  induction s generalizing l with
  | nil => cases h
  | cons d r ih =>
    rw [splitAfter] at h
    split at h
    · rcases List.mem_cons.mp h with rfl | h
      · exact List.forall_mem_nil _
      · exact ih h
    · next hd =>
      rw [Bool.not_eq_true] at hd
      split at h
      · rw [List.mem_singleton.mp h]
        exact List.forall_mem_nil _
      · next m ms hms =>
        rcases List.mem_cons.mp h with rfl | h
        · cases m with
          | nil => exact List.forall_mem_nil _
          | cons c m =>
            rw [List.dropLast_cons_cons]
            exact List.forall_mem_cons.mpr ⟨hd, ih (hms ▸ List.mem_cons_self)⟩
        · exact ih (hms ▸ List.mem_cons_of_mem m h)

/-- **A trimmed line is free of line ends.** -/
theorem lineEnd_not_mem_trim {s l : List Char} (h : l ∈ lines s) : '\n' ∉ trim l := by
  intro hmem
  obtain ⟨x, y, hl⟩ := trim_isInfix l
  obtain ⟨a, b, hcut⟩ := List.append_of_mem hmem
  by_cases hend : b ++ y = []
  · -- the line end would be the last character, and a blank
    obtain ⟨rfl, -⟩ := List.append_eq_nil_iff.mp hend
    have hblank := not_isBlank_of_trim (s := l) (c := '\n') (by rw [hcut, List.getLast?_concat])
    cases hblank
  · have hline : l = x ++ a ++ ['\n'] ++ (b ++ y) := by
      rw [← hl, hcut]
      simp
    have hearlier : '\n' ∈ l.dropLast := by
      rw [hline, List.dropLast_append_of_ne_nil hend]
      simp
    cases not_of_mem_splitAfter h '\n' hearlier

end PaymentDesk.Text
