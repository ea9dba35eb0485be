import Mathlib.Data.List.TakeWhile
import PaymentDesk.Proofs.Url.Path

/-!
# Texts appended to a URL

Let a text be read as a URL of a special scheme, and let it end with a slash and hold neither `?` nor `#`. Then whatever
is appended to it is read at one and the same place: the scheme, the authority and the segments before the last slash do
not depend on it (`parse_append`). The place is a `Place`, and `Place.locate` says where a text leads from there.
-/

namespace PaymentDesk.Url

open Text

/-! ## Cleaning -/

/-- A text without control characters and spaces at its end, and without tabs and line ends. -/
def cleanEnd (y : List Char) : List Char :=
  (y.reverse.dropWhile isControlOrSpace).reverse.filter (! isTabOrLineEnd ·)

theorem dropWhile_append {p : Char → Bool} {c : Char} (hc : p c = false) (x y : List Char) :
    (x ++ [c] ++ y).dropWhile p = x.dropWhile p ++ [c] ++ y := by
  rw [List.append_assoc, List.dropWhile_append]
  split
  · next h =>
    rw [List.isEmpty_iff] at h
    simp [h, hc]
  · simp

theorem dropWhile_reverse_append {p : Char → Bool} {c : Char} (hc : p c = false) (x y : List Char) :
    ((x ++ [c] ++ y).reverse.dropWhile p).reverse = x ++ [c] ++ (y.reverse.dropWhile p).reverse := by
  rw [List.reverse_append, List.dropWhile_append]
  split
  · next h =>
    rw [List.isEmpty_iff] at h
    simp [h, hc]
  · simp

/-- Behind a character that stays, a text is cleaned at its end only. -/
theorem clean_append_of {c : Char} (hc : isControlOrSpace c = false) (x y : List Char) :
    clean (x ++ [c] ++ y) = clean (x ++ [c]) ++ cleanEnd y := by
  have front := dropWhile_append hc x []
  have back := dropWhile_reverse_append hc (x.dropWhile isControlOrSpace) []
  simp only [List.append_nil, List.reverse_nil, List.dropWhile_nil] at front back
  rw [clean, clean, dropWhile_append hc, dropWhile_reverse_append hc, front, back, List.filter_append, cleanEnd]

/-- Such a character is a slash. -/
theorem clean_append (x y : List Char) : clean (x ++ ['/'] ++ y) = clean (x ++ ['/']) ++ cleanEnd y :=
  clean_append_of (by decide) x y

/-- The control characters and spaces at the end of a text, tabs and line ends apart. -/
def trailing (t : List Char) : List Char :=
  ((t.dropWhile isControlOrSpace).reverse.takeWhile isControlOrSpace).reverse.filter (! isTabOrLineEnd ·)

theorem isControlOrSpace_of_trailing {t : List Char} {c : Char} (hc : c ∈ trailing t) : isControlOrSpace c = true :=
  List.all_eq_true.mp List.all_takeWhile c (List.mem_reverse.mp (List.mem_filter.mp hc).1)

/-- Control characters count for nothing at the end of a text, but stay when a slash is appended. -/
theorem clean_slash (t : List Char) : clean (t ++ ['/']) = clean t ++ trailing t ++ ['/'] := by
  have hs : isControlOrSpace '/' = false := by decide
  have front := dropWhile_append hs t []
  have back := dropWhile_reverse_append hs (t.dropWhile isControlOrSpace) []
  simp only [List.append_nil, List.reverse_nil, List.dropWhile_nil] at front back
  -- The text without leading control characters is the cleaned part followed by its trailing ones.
  have cut : t.dropWhile isControlOrSpace =
      ((t.dropWhile isControlOrSpace).reverse.dropWhile isControlOrSpace).reverse ++
        ((t.dropWhile isControlOrSpace).reverse.takeWhile isControlOrSpace).reverse := by
    rw [← List.reverse_append, List.takeWhile_append_dropWhile, List.reverse_reverse]
  rw [clean, clean, front, back, trailing, ← List.filter_append, ← cut, List.filter_append]
  rfl

/-! ## Schemes -/

theorem splitScheme_eq_some {s sch r : List Char} (h : splitScheme s = some (sch, r)) :
    ∃ c t, s = c :: t ∧ c.isAlpha = true ∧ s.dropWhile isSchemeChar = ':' :: r ∧
      sch = (s.takeWhile isSchemeChar).map Char.toLower := by
  rw [splitScheme] at h
  split at h
  · next ha hd =>
    cases h
    cases s with
    | nil => cases hd
    | cons c t => exact ⟨c, t, rfl, ha, hd, rfl⟩
  · cases h

/-- What follows the scheme does not change it. -/
theorem splitScheme_append {s sch r : List Char} (h : splitScheme s = some (sch, r)) (x : List Char) :
    splitScheme (s ++ x) = some (sch, r ++ x) := by
  obtain ⟨c, t, rfl, ha, hd, rfl⟩ := splitScheme_eq_some h
  have hd' : (c :: t ++ x).dropWhile isSchemeChar = ':' :: (r ++ x) := by
    rw [List.dropWhile_append, hd]
    rfl
  have ht' : (c :: t ++ x).takeWhile isSchemeChar = (c :: t).takeWhile isSchemeChar := by
    rw [List.takeWhile_append, if_neg]
    intro hlen
    have hsum := congrArg List.length (List.takeWhile_append_dropWhile (p := isSchemeChar) (l := c :: t))
    rw [List.length_append, hlen, hd] at hsum
    simp at hsum
  rw [splitScheme, hd', ht']
  simp [ha]

/-! ## Authorities -/

theorem mem_splitPort {c : Char} : ∀ {s : List Char} {inside : Bool}, c ∈ (splitPort inside s).2 → c ∈ s
  | [], _, h => h
  | d :: r, inside, h => by
    simp only [splitPort] at h
    split at h
    · exact h
    · exact List.mem_cons_of_mem _ (mem_splitPort h)

theorem mem_splitUserInfo {c : Char} {s : List Char} (h : c ∈ (splitUserInfo s).2) : c ∈ s := by
  rw [splitUserInfo] at h
  split at h
  · exact h
  · exact List.mem_reverse.mp (List.takeWhile_subset _ (List.mem_reverse.mp h))

/-- In a special URL the authority ends at the first slash, question mark or number sign. -/
theorem authorityText_special (s : List Char) : authorityText true s = s.takeWhile (! endsAuthority true ·) := by
  have noBackslash : ∀ c ∈ (splitPort false (splitUserInfo (s.takeWhile (! endsAuthority true ·))).2).2,
      (c != '\\') = true := by
    intro c hc
    have := List.all_eq_true.mp List.all_takeWhile c (mem_splitUserInfo (mem_splitPort hc))
    rw [bne_iff_ne]
    rintro rfl
    simp [endsAuthority, isSlash] at this
  rw [authorityText, List.dropWhile_eq_nil_iff.mpr noBackslash]
  simp

/-! ## Special URLs -/

/-- The URL of a special scheme at an authority, with a path and with what follows the path as it is written. -/
def special (scheme : List Char) (authority : Authority) (path : List (List Char)) (tail : Tail) : Url where
  scheme := scheme
  authority := some authority
  path := .segments path
  query := tail.query.map (Percent.encode Percent.inSpecialQuery)
  fragment := tail.fragment.map (Percent.encode Percent.inFragment)

/-- The text from its authority on. -/
def body (s : List Char) : List Char := s.dropWhile (isSlash true)

/-- The authority at the front of a text, and what follows it. -/
def authorityPart (s : List Char) : List Char := (body s).takeWhile (! endsAuthority true ·)

/-- What follows the authority at the front of a text. -/
def tailPart (s : List Char) : List Char := (body s).dropWhile (! endsAuthority true ·)

theorem parseSpecial_eq (scheme s : List Char) : parseSpecial scheme s =
    (parseAuthority scheme (authorityPart s)).map fun a =>
      special scheme a (walk [] (writtenSegments true (splitTail (tailPart s)).path)) (splitTail (tailPart s)) := by
  have cut : (body s).drop (authorityPart s).length = tailPart s := by
    have hb : authorityPart s ++ tailPart s = body s := List.takeWhile_append_dropWhile
    rw [← hb, List.drop_left]
  rw [parseSpecial]
  simp only [authorityText_special]
  show (parseAuthority scheme (authorityPart s)).bind _ = _
  cases parseAuthority scheme (authorityPart s) with
  | error f => rfl
  | ok a =>
    show Except.ok _ = Except.ok _
    rw [← cut]
    rfl

/-! ## Tails -/

/-- A text without `?` and `#`. -/
def Plain (s : List Char) : Prop := ∀ c ∈ s, c ≠ '?' ∧ c ≠ '#'

theorem Plain.append {x y : List Char} (hx : Plain x) (hy : Plain y) : Plain (x ++ y) := fun c h =>
  (List.mem_append.mp h).elim (hx c) (hy c)

/-- Control characters are neither of the two. -/
theorem plain_trailing (t : List Char) : Plain (trailing t) := by
  intro c hc
  have := isControlOrSpace_of_trailing hc
  constructor <;> rintro rfl <;> revert this <;> decide

theorem after?_eq_none {mark : Char} {s : List Char} (h : after? mark s = none) : ∀ c ∈ s, c ≠ mark := by
  rw [after?] at h
  split at h
  · next hd => exact fun c hc => bne_iff_ne.mp (List.dropWhile_eq_nil_iff.mp hd c hc)
  · cases h

/-- A text has neither a query nor a fragment exactly when it is plain. -/
theorem plain_of_splitTail {s : List Char} (hq : (splitTail s).query = none) (hf : (splitTail s).fragment = none) :
    Plain s := by
  have hash := after?_eq_none hf
  have main : s.takeWhile (· != '#') = s :=
    List.takeWhile_eq_self_iff.mpr fun c hc => bne_iff_ne.mpr (hash c hc)
  simp only [splitTail, main] at hq
  exact fun c hc => ⟨after?_eq_none hq c hc, hash c hc⟩

/-- A plain text in front belongs to the path. -/
theorem splitTail_append {x : List Char} (hx : Plain x) (y : List Char) :
    splitTail (x ++ y) = { splitTail y with path := x ++ (splitTail y).path } := by
  have hash : ∀ c ∈ x, (c != '#') = true := fun c hc => bne_iff_ne.mpr (hx c hc).2
  have mark : ∀ c ∈ x, (c != '?') = true := fun c hc => bne_iff_ne.mpr (hx c hc).1
  simp only [splitTail, after?, List.takeWhile_append_of_pos hash, List.takeWhile_append_of_pos mark,
    List.dropWhile_append_of_pos hash, List.dropWhile_append_of_pos mark]

theorem splitTail_plain {x : List Char} (hx : Plain x) : splitTail x = ⟨x, none, none⟩ := by
  simpa [splitTail, after?] using splitTail_append hx []

/-! ## Places -/

/-- A place in the tree of a server: where a URL leads that ends with a slash. -/
structure Place where
  scheme : List Char
  authority : Authority
  /-- The segments down to the place, in reverse. -/
  above : List (List Char)

/-- Where a text leads from a place. -/
def Place.locate (p : Place) (y : List Char) : Url :=
  special p.scheme p.authority (walk p.above (fields (isSlash true) (splitTail y).path)) (splitTail y)

/-- A special URL without an authority is none. -/
theorem authorityPart_ne_nil {scheme s : List Char} {a : Authority} (hs : isSpecial scheme = true)
    (h : parseAuthority scheme (authorityPart s) = .ok a) : authorityPart s ≠ [] := by
  intro hn
  have hno : parseAuthority scheme [] = .error .emptyHost := by
    simp only [parseAuthority, hs]
    rfl
  rw [hn, hno] at h
  cases h

section Slash

variable {x : List Char} (hx : body x ≠ []) (y : List Char)
include hx

theorem body_append : body (x ++ y) = body x ++ y := by
  rw [body, List.dropWhile_append, if_neg]
  · rfl
  · rw [List.isEmpty_iff]
    exact hx

/-- A slash that does not stand in front of the authority ends it. -/
theorem authorityPart_append : authorityPart (x ++ '/' :: y) = authorityPart x := by
  rw [authorityPart, body_append hx, List.takeWhile_append]
  split
  · next h =>
    rw [List.takeWhile_cons_of_neg (by decide), List.append_nil]
    exact (List.takeWhile_prefix _).eq_of_length h |>.symm
  · rfl

theorem tailPart_append : tailPart (x ++ '/' :: y) = tailPart x ++ '/' :: y := by
  rw [tailPart, body_append hx, List.dropWhile_append, tailPart]
  split
  · next h =>
    rw [List.isEmpty_iff.mp h, List.dropWhile_cons_of_neg (by decide)]
    rfl
  · rfl

end Slash

/-- The segments that stand in front of the last slash of a text, which itself starts with a slash or is empty. -/
def leading : List Char → List (List Char)
  | [] => []
  | _ :: r => fields (isSlash true) r

theorem writtenSegments_append {t : List Char} (ht : ∀ c ∈ t.head?, isSlash true c = true) (y : List Char) :
    writtenSegments true (t ++ '/' :: y) = leading t ++ fields (isSlash true) y := by
  cases t with
  | nil => rfl
  | cons c r =>
    have hc : isSlash true c = true := ht c rfl
    rw [List.cons_append, writtenSegments, if_pos hc, fields_append rfl]
    rfl

theorem head_tailPart {s : List Char} (hs : Plain s) : ∀ c ∈ (tailPart s).head?, isSlash true c = true := by
  intro c hc
  have hm : c ∈ s :=
    (List.dropWhile_suffix _).subset ((List.dropWhile_suffix _).subset (List.mem_of_mem_head? hc))
  have hend := List.head?_dropWhile_not (! endsAuthority true ·) (body s)
  rw [tailPart] at hc
  rw [Option.mem_def.mp hc] at hend
  have hend : endsAuthority true c = true := by simpa using hend
  simpa [endsAuthority, (hs c hm).1, (hs c hm).2] using hend

/-- The place that a text leads to whose authority is read already. -/
def placeOf (scheme : List Char) (a : Authority) (x : List Char) : Place :=
  ⟨scheme, a, (leading (tailPart x)).foldl enter []⟩

/-- **What stands behind the last slash of a special URL is read at one place**, provided that there is an authority and
that it can be read. -/
theorem parseSpecial_slash (scheme : List Char) {x : List Char} (hb : body x ≠ []) (hx : Plain x) (y : List Char) :
    parseSpecial scheme (x ++ '/' :: y) =
      (parseAuthority scheme (authorityPart x)).map fun a => (placeOf scheme a x).locate y := by
  have hplain : Plain (tailPart x ++ ['/']) := by
    have hsub : ∀ c ∈ tailPart x, c ∈ x := fun c hc =>
      (List.dropWhile_suffix _).subset ((List.dropWhile_suffix _).subset hc)
    refine Plain.append (fun c hc => hx c (hsub c hc)) fun c hc => ?_
    rw [List.mem_singleton.mp hc]
    decide
  have ht : splitTail (tailPart x ++ '/' :: y) =
      { splitTail y with path := tailPart x ++ '/' :: (splitTail y).path } := by
    have := splitTail_append hplain y
    simpa using this
  rw [parseSpecial_eq, authorityPart_append hb, tailPart_append hb, ht]
  congr 1
  funext a
  rw [writtenSegments_append (head_tailPart hx), walk_append _ (fields_ne_nil _ _)]
  rfl

/-- A text whose authority can be read still has it without the slash at its end. -/
theorem parseSpecial_append {scheme x : List Char} {u : Url} (hs : isSpecial scheme = true) (hx : Plain x)
    (h : parseSpecial scheme (x ++ ['/']) = .ok u) :
    ∃ a, parseAuthority scheme (authorityPart x) = .ok a ∧
      ∀ y, parseSpecial scheme (x ++ '/' :: y) = .ok ((placeOf scheme a x).locate y) := by
  have hb : body x ≠ [] := by
    intro hb
    rw [parseSpecial_eq] at h
    have hn : authorityPart (x ++ ['/']) = [] := by
      rw [authorityPart, body, List.dropWhile_append, if_pos (by simpa [body] using hb)]
      rfl
    cases ha : parseAuthority scheme (authorityPart (x ++ ['/'])) with
    | error f => rw [ha] at h; cases h
    | ok a => exact authorityPart_ne_nil hs ha hn
  rw [parseSpecial_slash scheme hb hx] at h
  cases ha : parseAuthority scheme (authorityPart x) with
  | error f => rw [ha] at h; cases h
  | ok a => exact ⟨a, rfl, fun y => by rw [parseSpecial_slash scheme hb hx, ha]; rfl⟩

end PaymentDesk.Url
