import PaymentDesk.Proofs.Text.Utf8
import PaymentDesk.Proofs.Url.Append

/-!
# One segment below a place

A text is appended to a URL that ends with a slash, and then an order such as `cancel` behind one more slash. Both are
where one expects them, one segment and two segments below, exactly when the text is one segment below the place by
itself and does not end in control characters (`walk_below_iff`). Control characters count for nothing at the end of a
URL, but stay where something follows.
-/

namespace PaymentDesk

namespace Text

/-- What holds no separator goes on with the last field. -/
theorem fields_append_of_free {p : Char → Bool} {z : List Char} (hz : ∀ c ∈ z, p c = false) :
    ∀ {x l : List Char} {ls : List (List Char)}, fields p x = ls ++ [l] → fields p (x ++ z) = ls ++ [l ++ z]
  | [], l, ls, h => by
    obtain ⟨rfl, rfl⟩ : ls = [] ∧ l = [] := by
      simpa [fields, List.append_eq_cons_iff, and_comm] using h.symm
    exact fields_eq_singleton hz
  | c :: x, l, ls, h => by
    obtain ⟨ks, k, hx⟩ : ∃ ks k, fields p x = ks ++ [k] :=
      ⟨_, _, (List.dropLast_concat_getLast (fields_ne_nil p x)).symm⟩
    have ih := fields_append_of_free hz hx
    rw [List.cons_append, fields, ih]
    rw [fields, hx] at h
    split at h
    · next hc =>
      obtain ⟨rfl, hk⟩ := List.append_inj' (show ([] :: ks) ++ [k] = ls ++ [l] from h) rfl
      rw [if_pos hc, List.singleton_inj.mp hk, List.cons_append]
    · next hc =>
      rw [if_neg hc]
      cases ks with
      | nil =>
        obtain ⟨rfl, hk⟩ := List.append_inj' (show [] ++ [c :: k] = ls ++ [l] from h) rfl
        rw [← List.singleton_inj.mp hk]
        rfl
      | cons f fs =>
        obtain ⟨rfl, hk⟩ := List.append_inj' (show ((c :: f) :: fs) ++ [k] = ls ++ [l] from h) rfl
        rw [List.singleton_inj.mp hk]
        rfl

end Text

namespace Url

open Text

/-! ## Ends -/

/-- Without tabs and line ends a text is cut off at its end only, where control characters stand. -/
theorem cleanEnd_cut {y : List Char} (hy : ∀ c ∈ y, isTabOrLineEnd c = false) : ∃ z, y = cleanEnd y ++ z ∧
    (∀ c ∈ z, isControlOrSpace c = true) ∧ (z = [] ↔ y.getLast?.any isControlOrSpace = false) := by
  have cut := List.takeWhile_append_dropWhile (p := isControlOrSpace) (l := y.reverse)
  have hclean : cleanEnd y = (y.reverse.dropWhile isControlOrSpace).reverse := by
    refine List.filter_eq_self.mpr fun c hc => ?_
    have hc := (List.dropWhile_suffix _).subset (List.mem_reverse.mp hc)
    simp [hy c (List.mem_reverse.mp hc)]
  refine ⟨(y.reverse.takeWhile isControlOrSpace).reverse, ?_, ?_, ?_⟩
  · rw [hclean, ← List.reverse_append, cut, List.reverse_reverse]
  · intro c hc
    exact List.all_eq_true.mp List.all_takeWhile c (List.mem_reverse.mp hc)
  · rw [List.reverse_eq_nil_iff, ← List.head?_reverse]
    cases y.reverse with
    | nil => simp
    | cons c r => by_cases h : isControlOrSpace c <;> simp [h]

theorem cleanEnd_eq_self {y : List Char} (hy : ∀ c ∈ y, isTabOrLineEnd c = false)
    (hlast : y.getLast?.any isControlOrSpace = false) : cleanEnd y = y := by
  obtain ⟨z, hz, -, hnil⟩ := cleanEnd_cut hy
  rw [hnil.mpr hlast, List.append_nil] at hz
  exact hz.symm

theorem not_isTabOrLineEnd {c : Char} (hc : isControlOrSpace c = false) : isTabOrLineEnd c = false := by
  rw [isTabOrLineEnd, Bool.eq_false_iff]
  intro h
  simp only [Bool.or_eq_true, beq_iff_eq] at h
  rcases h with (rfl | rfl) | rfl <;> revert hc <;> decide

theorem not_isSlash_of_control {c : Char} (hc : isControlOrSpace c = true) : isSlash true c = false := by
  rw [Bool.eq_false_iff]
  intro hs
  simp only [isSlash, Bool.true_and, Bool.or_eq_true, beq_iff_eq] at hs
  rcases hs with rfl | rfl <;> revert hc <;> decide

/-! ## Names -/

theorem encode_append (keep : Char → Bool) (x y : List Char) :
    Percent.encode keep (x ++ y) = Percent.encode keep x ++ Percent.encode keep y :=
  List.flatMap_append

/-- Encoding makes nothing vanish. -/
theorem encode_eq_nil {keep : Char → Bool} {s : List Char} : Percent.encode keep s = [] ↔ s = [] := by
  refine ⟨fun h => ?_, fun h => by rw [h]; rfl⟩
  cases s with
  | nil => rfl
  | cons c r =>
    have hc := List.flatMap_eq_nil_iff.mp h c List.mem_cons_self
    split at hc
    · cases hc
    · rw [Percent.encodeChar, List.flatMap_eq_nil_iff] at hc
      cases hu : Utf8.encodeChar c with
      | nil => exact absurd hu (Utf8.encodeChar_ne_nil c)
      | cons b bs => cases hc b (hu ▸ List.mem_cons_self)

variable {above : List (List Char)} {s : List Char}

theorem isName_iff : isName s = true ↔ s ≠ [] ∧ isSingleDot s = false ∧ isDoubleDot s = false := by
  simp [isName, and_assoc]

theorem enter_name (hs : isName s = true) : enter above s = Percent.encode Percent.inPath s :: above := by
  obtain ⟨-, hone, htwo⟩ := isName_iff.mp hs
  simp [enter, hone, htwo]

theorem walk_name (hs : isName s = true) :
    walk above [s] = above.reverse ++ [Percent.encode Percent.inPath s] := by
  obtain ⟨-, hone, htwo⟩ := isName_iff.mp hs
  simp [walk_single, hone, htwo]

/-- Only a name leads to a segment that is not empty. -/
theorem isName_of_walk {path : List (List Char)} {seg : List Char} (hseg : seg ≠ [])
    (h : walk above [s] = path ++ [seg]) : isName s = true := by
  rw [walk_single] at h
  rw [isName_iff]
  split at h
  · exact absurd (List.singleton_inj.mp (List.append_inj' h rfl).2).symm hseg
  split at h
  · exact absurd (List.singleton_inj.mp (List.append_inj' h rfl).2).symm hseg
  next htwo hone =>
    have hs := List.singleton_inj.mp (List.append_inj' h rfl).2
    refine ⟨?_, by simpa using hone, by simpa using htwo⟩
    rintro rfl
    exact hseg hs.symm

/-- One step below a place is one step along a name. -/
theorem encode_of_enter {seg : List Char} (h : enter above s = seg :: above) :
    Percent.encode Percent.inPath s = seg := by
  rw [enter] at h
  split at h
  · have := congrArg List.length h
    simp only [List.length_drop, List.length_cons] at this
    omega
  split at h
  · have := congrArg List.length h
    simp at this
  · exact (List.cons.inj h).1

/-! ## Places below -/

/-- The segments of a place, as its own URL has them before the last slash. -/
theorem Place.dropLast_locate_nil (p : Place) : (p.locate []).path.list.dropLast = p.above.reverse := by
  show (walk p.above (fields (isSlash true) [])).dropLast = _
  rw [show fields (isSlash true) [] = [[]] from rfl, walk_nil, List.dropLast_concat]

/-- Segments that lead back to where they start, and then to a segment below it. -/
def isBelow (above : List (List Char)) (segments : List (List Char)) : Bool :=
  segments.dropLast.foldl enter above == above && segments.getLast?.any isName

/-- **A text and the orders behind it are found together** exactly when the text leads one segment below and keeps its
end. -/
theorem walk_below_iff {order x z : List Char} (ho : isName order = true)
    (he : Percent.encode Percent.inPath order = order) (hz : ∀ c ∈ z, isSlash true c = false) (seg : List Char) :
    (seg ≠ [] ∧ walk above (fields (isSlash true) x) = above.reverse ++ [seg] ∧
      walk above (fields (isSlash true) (x ++ z) ++ [order]) = above.reverse ++ [seg, order]) ↔
    (z = [] ∧ isBelow above (fields (isSlash true) x) = true ∧
      (fields (isSlash true) x).getLast?.map (Percent.encode Percent.inPath) = some seg) := by
  obtain ⟨ls, l, hx⟩ : ∃ ls l, fields (isSlash true) x = ls ++ [l] :=
    ⟨_, _, (List.dropLast_concat_getLast (fields_ne_nil _ x)).symm⟩
  have back (t : List (List Char)) : t.reverse ++ [order] = above.reverse ++ [seg, order] ↔ t = seg :: above := by
    rw [show above.reverse ++ [seg, order] = (seg :: above).reverse ++ [order] by simp, List.append_left_inj,
      List.reverse_inj]
  rw [fields_append_of_free hz hx, hx, walk_append _ (List.cons_ne_nil order []), walk_append _ (List.cons_ne_nil l []),
    walk_name ho, he, back, List.foldl_append]
  simp only [List.foldl_cons, List.foldl_nil, isBelow, List.dropLast_concat, List.getLast?_concat, Option.any_some,
    Option.map_some, Option.some.injEq, Bool.and_eq_true, beq_iff_eq]
  constructor
  · rintro ⟨hseg, hfetch, horder⟩
    have hl := isName_of_walk hseg hfetch
    rw [walk_name hl] at hfetch
    obtain ⟨habove, henc⟩ := List.append_inj' hfetch rfl
    have habove := List.reverse_inj.mp habove
    have henc := List.singleton_inj.mp henc
    rw [habove] at horder
    have hlz := encode_of_enter horder
    rw [encode_append, henc, List.append_right_eq_self, encode_eq_nil] at hlz
    exact ⟨hlz, ⟨habove, hl⟩, henc⟩
  · rintro ⟨rfl, ⟨habove, hl⟩, rfl⟩
    rw [habove, List.append_nil, walk_name hl, enter_name hl]
    exact ⟨mt encode_eq_nil.mp (isName_iff.mp hl).1, rfl, rfl⟩

/-! ## Lengths -/

theorem length_le_encode (keep : Char → Bool) : ∀ s : List Char, s.length ≤ (Percent.encode keep s).length
  | [] => Nat.le_refl _
  | c :: s => by
    have hc := List.length_pos_iff.mpr (mt (@encode_eq_nil keep [c]).mp (List.cons_ne_nil c []))
    have ih := length_le_encode keep s
    rw [← List.singleton_append, encode_append, List.length_append, List.length_append]
    exact Nat.add_le_add hc ih

/-- A URL asks for at least its last segment. -/
theorem length_le_target {u : Url} {path : List (List Char)} {s : List Char} (h : u.path = .segments (path ++ [s])) :
    s.length ≤ u.target.length := by
  rw [target, h, Path.text, slashed, List.flatMap_append]
  simp only [List.flatMap_cons, List.flatMap_nil, List.append_nil, List.length_append, List.length_cons]
  omega

theorem length_target_le (u : Url) : u.target.length ≤ u.text.length := by
  simp only [text, List.length_append]
  omega

end Url

end PaymentDesk
