import PaymentDesk.Proofs.Url.Append

/-!
# Special URLs as whole texts

What is known of a URL that was read from a text: its scheme is the one in front of the text (`of_parse`), and a special
URL with neither a query nor a fragment is written without their marks (`plain_clean`). Behind the last slash of such a
text everything is read at one place (`parse_append`).
-/

namespace PaymentDesk.Url

open Text

/-! ## Schemes -/

theorem scheme_of_parseSpecial {scheme s : List Char} {u : Url} (h : parseSpecial scheme s = .ok u) :
    u.scheme = scheme := by
  rw [parseSpecial_eq] at h
  cases ha : parseAuthority scheme (authorityPart s) with
  | error f => rw [ha] at h; cases h
  | ok a => rw [ha] at h; cases h; rfl

theorem scheme_of_parseFile {scheme s : List Char} {u : Url} (h : parseFile scheme s = .ok u) : u.scheme = scheme := by
  unfold parseFile at h
  simp only [bind, Except.bind] at h
  split at h
  · cases h
  · cases h; rfl

theorem scheme_of_parseOther {scheme s : List Char} {u : Url} (h : parseOther scheme s = .ok u) :
    u.scheme = scheme := by
  unfold parseOther at h
  simp only [bind, Except.bind] at h
  split at h
  · split at h
    · cases h
    · split at h
      · cases h
      · cases h; rfl
  · cases h; rfl
  · cases h; rfl

/-- A URL has the scheme that its text starts with. -/
theorem scheme_of_parseAfterScheme {scheme s : List Char} {u : Url} (h : parseAfterScheme scheme s = .ok u) :
    u.scheme = scheme := by
  rw [parseAfterScheme] at h
  split at h
  · exact scheme_of_parseSpecial h
  split at h
  · exact scheme_of_parseFile h
  · exact scheme_of_parseOther h

/-- A URL of a special scheme is read as one. -/
theorem of_parse {s : List Char} {u : Url} (h : parse s = .ok u) (hs : isSpecial u.scheme = true) :
    ∃ r, splitScheme (clean s) = some (u.scheme, r) ∧ parseSpecial u.scheme r = .ok u := by
  rw [parse] at h
  split at h
  · next sch r hr =>
    obtain rfl := scheme_of_parseAfterScheme h
    rw [parseAfterScheme, if_pos hs] at h
    exact ⟨r, hr, h⟩
  · cases h

theorem parse_of_splitScheme {s sch r : List Char} (h : splitScheme (clean s) = some (sch, r))
    (hs : isSpecial sch = true) : parse s = parseSpecial sch r := by
  rw [parse, h]
  simp only
  rw [parseAfterScheme, if_pos hs]

/-! ## Plain texts -/

theorem plain_takeWhile_scheme (s : List Char) : Plain (s.takeWhile isSchemeChar) := by
  intro c hc
  have := List.all_eq_true.mp List.all_takeWhile c hc
  constructor <;> rintro rfl <;> revert this <;> decide

/-- A special URL with neither a query nor a fragment is written without their marks. -/
theorem plain_of_parseSpecial {scheme s : List Char} {u : Url} (h : parseSpecial scheme s = .ok u)
    (hq : u.query = none) (hf : u.fragment = none) : Plain s := by
  have slashes : Plain (s.takeWhile (isSlash true)) := by
    intro c hc
    have := List.all_eq_true.mp List.all_takeWhile c hc
    constructor <;> rintro rfl <;> revert this <;> decide
  have authority : Plain (authorityPart s) := by
    intro c hc
    have := List.all_eq_true.mp List.all_takeWhile c hc
    constructor <;> rintro rfl <;> revert this <;> decide
  have tail : Plain (tailPart s) := by
    rw [parseSpecial_eq] at h
    cases ha : parseAuthority scheme (authorityPart s) with
    | error f => rw [ha] at h; cases h
    | ok a =>
      rw [ha] at h
      cases h
      exact plain_of_splitTail (Option.map_eq_none_iff.mp hq) (Option.map_eq_none_iff.mp hf)
  have hb : authorityPart s ++ tailPart s = body s := List.takeWhile_append_dropWhile
  have hs : s.takeWhile (isSlash true) ++ body s = s := List.takeWhile_append_dropWhile
  rw [← hs, ← hb]
  exact slashes.append (authority.append tail)

/-- The same for a text that is read from its scheme on. -/
theorem plain_clean {s : List Char} {u : Url} (h : parse s = .ok u) (hs : isSpecial u.scheme = true)
    (hq : u.query = none) (hf : u.fragment = none) : Plain (clean s) := by
  obtain ⟨r, hr, hu⟩ := of_parse h hs
  obtain ⟨c, t, -, -, hd, -⟩ := splitScheme_eq_some hr
  rw [← List.takeWhile_append_dropWhile (p := isSchemeChar) (l := clean s), hd]
  refine (plain_takeWhile_scheme _).append ?_
  intro d hmem
  rcases List.mem_cons.mp hmem with rfl | hmem
  · decide
  · exact plain_of_parseSpecial hu hq hf d hmem

/-! ## Appended texts -/

/-- What follows a scheme ends like the whole text. -/
theorem splitScheme_slash {z sch r : List Char} (h : splitScheme (z ++ ['/']) = some (sch, r)) :
    ∃ r', r = r' ++ ['/'] := by
  obtain ⟨c, t, -, -, hd, -⟩ := splitScheme_eq_some h
  have hcut := List.takeWhile_append_dropWhile (p := isSchemeChar) (l := z ++ ['/'])
  rw [hd] at hcut
  rcases List.eq_nil_or_concat r with rfl | ⟨r', d, rfl⟩
  · have := congrArg List.getLast? hcut
    simp at this
  · refine ⟨r', ?_⟩
    have := congrArg List.getLast? hcut
    simp only [List.concat_eq_append, List.getLast?_append, List.getLast?_cons, Option.some_or,
      Option.some.injEq] at this
    simp at this
    rw [this, List.concat_eq_append]

/-- **What stands behind the last slash of a text is read at one place**, provided that the text itself is read as a
special URL and holds neither `?` nor `#`. -/
theorem parse_append {x : List Char} {u : Url} (h : parse (x ++ ['/']) = .ok u) (hs : isSpecial u.scheme = true)
    (hx : Plain (clean (x ++ ['/']))) :
    ∃ p : Place, ∀ y, parse (x ++ ['/'] ++ y) = .ok (p.locate (cleanEnd y)) := by
  obtain ⟨r, hr, hu⟩ := of_parse h hs
  obtain ⟨r', rfl⟩ := splitScheme_slash (clean_slash x ▸ hr)
  have hplain : Plain r' := by
    intro c hc
    obtain ⟨-, -, -, -, hd, -⟩ := splitScheme_eq_some hr
    refine hx c ((List.dropWhile_suffix isSchemeChar).subset ?_)
    rw [hd]
    simp [hc]
  obtain ⟨a, -, ha⟩ := parseSpecial_append hs hplain hu
  refine ⟨placeOf u.scheme a r', fun y => ?_⟩
  have hy : splitScheme (clean (x ++ ['/'] ++ y)) = some (u.scheme, r' ++ '/' :: cleanEnd y) := by
    rw [clean_append, splitScheme_append hr, List.append_assoc]
    rfl
  rw [parse_of_splitScheme hy hs, ha]

end PaymentDesk.Url
