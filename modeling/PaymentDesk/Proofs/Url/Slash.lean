import PaymentDesk.Proofs.Url.Authority
import PaymentDesk.Proofs.Url.Reading

/-!
# A slash behind a URL

A text that spells a special URL without a query and a fragment is read a second time with a slash behind it. Mostly the
second URL is the first with a slash at the end of its path (`Url.withSlash`), but not always: a slash that is written
as a backslash gets another one, and control characters, which count for nothing at the end of a text, become part of
the path or spoil the authority (`parse_slash`).
-/

namespace PaymentDesk

open Text

namespace Text

/-- The last field is empty where a separator, or nothing at all, ends the text. -/
theorem last_field_eq_nil_iff {p : Char → Bool} {s l : List Char} {ls : List (List Char)} (h : fields p s = ls ++ [l]) :
    l = [] ↔ ∀ c ∈ s.getLast?, p c = true := by
  rcases List.eq_nil_or_concat s with rfl | ⟨s', c, rfl⟩
  · obtain ⟨-, hl⟩ := List.append_inj' (show [] ++ [[]] = ls ++ [l] from h) rfl
    simp [← List.singleton_inj.mp hl]
  · rw [List.concat_eq_append] at h ⊢
    cases hc : p c with
    | true =>
      rw [fields_append hc []] at h
      obtain ⟨-, hl⟩ := List.append_inj' h rfl
      simp [← List.singleton_inj.mp hl, hc]
    | false =>
      obtain ⟨ls', l', hcut⟩ : ∃ ls' l', fields p s' = ls' ++ [l'] :=
        ⟨_, _, (List.dropLast_concat_getLast (fields_ne_nil _ _)).symm⟩
      rw [fields_append_of_free (by simpa using hc) hcut] at h
      obtain ⟨-, hl⟩ := List.append_inj' h rfl
      simp [← List.singleton_inj.mp hl, hc]

/-- Fields hold no separators. -/
theorem not_mem_fields {p : Char → Bool} {s : List Char} : ∀ {f : List Char}, f ∈ fields p s →
    ∀ c ∈ f, p c = false := by
  induction s with
  | nil => simp [fields]
  | cons d r ih =>
    intro f hf c hc
    rw [fields] at hf
    split at hf
    · rcases List.mem_cons.mp hf with rfl | hf
      · cases hc
      · exact ih hf c hc
    · next hd =>
      split at hf
      · next g gs hg =>
        rcases List.mem_cons.mp hf with rfl | hf
        · rcases List.mem_cons.mp hc with rfl | hc
          · simpa using hd
          · exact ih (hg ▸ List.mem_cons_self) c hc
        · exact ih (hg ▸ List.mem_cons_of_mem _ hf) c hc
      · rw [List.mem_singleton.mp hf] at hc
        rw [List.mem_singleton.mp hc]
        simpa using hd

end Text

namespace Url

/-! ## Ends -/

theorem getLast?_of_suffix {α : Type} {x y : List α} (h : x <:+ y) (hx : x ≠ []) : y.getLast? = x.getLast? := by
  obtain ⟨w, rfl⟩ := h
  rw [List.getLast?_append, List.getLast?_eq_some_getLast hx]
  rfl

/-- A text that ends in neither a control character nor a space keeps its end. -/
theorem getLast?_clean {t : List Char} {c : Char} (h : t.getLast? = some c) (hc : isControlOrSpace c = false) :
    (clean t).getLast? = some c := by
  obtain ⟨s, rfl⟩ := List.getLast?_eq_some_iff.mp h
  have front := dropWhile_append hc s []
  simp only [List.append_nil] at front
  rw [clean, front]
  simp [hc, not_isTabOrLineEnd hc]

/-- Any other text ends in characters that a slash brings to light, unless they are tabs and line ends. -/
theorem trailing_eq_nil_iff {t : List Char} {c : Char} (ht : clean t ≠ []) (h : t.getLast? = some c)
    (hc : isTabOrLineEnd c = false) : trailing t = [] ↔ isControlOrSpace c = false := by
  have hne : t.dropWhile isControlOrSpace ≠ [] := by
    intro hn
    rw [clean, hn] at ht
    exact ht rfl
  have hlast : (t.dropWhile isControlOrSpace).getLast? = some c := by
    rw [← getLast?_of_suffix (List.dropWhile_suffix _) hne, h]
  obtain ⟨s, hs⟩ := List.getLast?_eq_some_iff.mp hlast
  rw [trailing, hs]
  cases hctrl : isControlOrSpace c <;> simp [hctrl, hc]

/-! ## Paths with a slash -/

/-- A path with one more slash. -/
def Path.addSlash : Path → Path
  | .segments l => .segments (l ++ [[]])
  | .unstructured t => .unstructured (t ++ ['/'])

theorem Path.text_addSlash (p : Path) : p.addSlash.text = p.text ++ ['/'] := by
  cases p <;> simp [Path.addSlash, Path.text, slashed]

/-- A path with a slash at its end, which is added if it is missing. -/
def Path.withSlash (p : Path) : Path := if p.text.getLast? = some '/' then p else p.addSlash

/-- What is written of a path changes by the slash only. -/
theorem Path.text_withSlash (p : Path) :
    p.withSlash.text = if p.text.getLast? = some '/' then p.text else p.text ++ ['/'] := by
  rw [Path.withSlash]
  split
  · rfl
  · exact p.text_addSlash

/-- A URL with a slash at the end of its path. -/
def withSlash (u : Url) : Url := { u with path := u.path.withSlash }

/-- Encoding writes no slashes. -/
theorem slash_not_mem_encode {s : List Char} (hs : '/' ∉ s) : '/' ∉ Percent.encode Percent.inPath s := by
  have byte : ∀ b : UInt8, '/' ∉ Percent.encodeByte b := by
    intro b
    have digit : ∀ n < 16, '/' ≠ Percent.upperDigit n := by decide
    have := b.toNat_lt
    simp only [Percent.encodeByte, List.mem_cons, List.not_mem_nil, or_false, not_or]
    exact ⟨by decide, digit _ (by omega), digit _ (by omega)⟩
  intro h
  obtain ⟨c, hc, h⟩ := List.mem_flatMap.mp h
  split at h
  · exact hs (List.mem_singleton.mp h ▸ hc)
  · obtain ⟨b, -, h⟩ := List.mem_flatMap.mp h
    exact byte b h

/-- A path ends with a slash exactly when its last segment is empty. -/
theorem withSlash_segments {s : List Char} (hs : '/' ∉ s) (l : List (List Char)) :
    (Path.segments (l ++ [s])).withSlash = .segments (if s = [] then l ++ [[]] else l ++ [s, []]) := by
  have last : (Path.segments (l ++ [s])).text.getLast? = some '/' ↔ s = [] := by
    rcases List.eq_nil_or_concat s with rfl | ⟨s', c, rfl⟩
    · simp [Path.text, slashed]
    · have hc : c ≠ '/' := by
        rintro rfl
        simp at hs
      have : (Path.segments (l ++ [s'.concat c])).text = (slashed l ++ '/' :: s') ++ [c] := by
        simp [Path.text, slashed]
      rw [this, List.getLast?_concat]
      simp [hc]
  rw [Path.withSlash]
  split
  · next h => rw [last.mp h, if_pos rfl]
  · next h =>
    rw [if_neg (mt last.mpr h), Path.addSlash, List.append_assoc]
    rfl

/-- A walk ends with a slash after its last segment has been entered, unless that one is empty. -/
theorem withSlash_walk {s : List Char} (hs : '/' ∉ s) (above : List (List Char)) :
    (Path.segments (walk above [s])).withSlash =
      .segments (walk (if s = [] then above else enter above s) [[]]) := by
  rw [walk_nil, walk_single]
  split
  · next htwo =>
    have : s ≠ [] := by
      rintro rfl
      cases htwo
    rw [withSlash_segments List.not_mem_nil, if_pos rfl, if_neg this, enter, if_pos htwo]
  split
  · next htwo hone =>
    have : s ≠ [] := by
      rintro rfl
      cases hone
    rw [withSlash_segments List.not_mem_nil, if_pos rfl, if_neg this, enter, if_neg htwo, if_pos hone]
  · next htwo hone =>
    by_cases hne : s = []
    · rw [hne, show Percent.encode Percent.inPath [] = [] from rfl, withSlash_segments List.not_mem_nil, if_pos rfl,
        if_pos rfl]
    · rw [withSlash_segments (slash_not_mem_encode hs), if_neg (mt encode_eq_nil.mp hne), if_neg hne, enter,
        if_neg htwo, if_neg hone, List.reverse_cons, List.append_assoc]
      rfl

/-- A place itself has a slash at its end. -/
theorem Place.withSlash_locate_nil (p : Place) : (p.locate []).withSlash = p.locate [] := by
  have hpath : (p.locate []).path = .segments (p.above.reverse ++ [[]]) := by
    show Path.segments (walk p.above (fields (isSlash true) [])) = _
    rw [show fields (isSlash true) [] = [[]] from rfl, walk_nil]
  rw [withSlash, hpath, withSlash_segments List.not_mem_nil, if_pos rfl, ← hpath]

/-! ## Control characters -/

/-- A period is written without control characters. -/
theorem of_dropPeriod? {s r : List Char} (h : dropPeriod? s = some r) {c : Char} (hc : isControlOrSpace c = true)
    (hm : c ∈ s) : c ∈ r := by
  have other : ∀ d : Char, isControlOrSpace d = false → c ≠ d := by
    rintro d hd rfl
    rw [hd] at hc
    cases hc
  rw [dropPeriod?.eq_def] at h
  split at h
  · cases h
    exact (List.mem_cons.mp hm).resolve_left (other _ rfl)
  · cases h
    simpa [other '%' rfl, other '2' rfl, other 'e' rfl] using hm
  · cases h
    simpa [other '%' rfl, other '2' rfl, other 'E' rfl] using hm
  · cases h

/-- A segment with a control character is none of the dots. -/
theorem not_dots_of_control {s : List Char} {c : Char} (hc : isControlOrSpace c = true) (hm : c ∈ s) :
    isSingleDot s = false ∧ isDoubleDot s = false := by
  constructor
  · rw [Bool.eq_false_iff, isSingleDot]
    intro h
    exact List.not_mem_nil (of_dropPeriod? (beq_iff_eq.mp h) hc hm)
  · rw [Bool.eq_false_iff, isDoubleDot]
    intro h
    obtain ⟨r, hr, h⟩ := Option.bind_eq_some_iff.mp (beq_iff_eq.mp h)
    exact List.not_mem_nil (of_dropPeriod? h hc (of_dropPeriod? hr hc hm))

/-- A segment is entered at the same place with control characters behind it only if there are none. -/
theorem enter_append_iff {s z : List Char} (hz : ∀ c ∈ z, isControlOrSpace c = true) (above : List (List Char)) :
    enter above (s ++ z) = (if s = [] then above else enter above s) ↔ s ≠ [] ∧ z = [] := by
  cases z with
  | nil =>
    by_cases hs : s = []
    · simp [hs, enter, isDoubleDot, isSingleDot, dropPeriod?]
    · simp [hs]
  | cons c z =>
    obtain ⟨hone, htwo⟩ := not_dots_of_control (hz c List.mem_cons_self)
      (List.mem_append_right s (List.mem_cons_self (a := c) (l := z)))
    have hname : enter above (s ++ c :: z) = Percent.encode Percent.inPath (s ++ c :: z) :: above := by
      simp [enter, hone, htwo]
    rw [hname]
    refine iff_of_false (fun h => ?_) (by simp)
    split at h
    · exact absurd h (List.cons_ne_self _ _)
    · have := encode_of_enter h.symm
      rw [encode_append] at this
      have := List.append_right_eq_self.mp this.symm
      exact List.cons_ne_nil c z (encode_eq_nil.mp this)

/-! ## The authority and what follows it -/

section

variable {r : List Char} (hb : body r ≠ []) (z : List Char)
include hb

/-- An authority that has not ended goes on. -/
theorem authorityPart_append_of_open (hz : ∀ c ∈ z, endsAuthority true c = false) (h : tailPart r = []) :
    authorityPart (r ++ z) = authorityPart r ++ z := by
  have hall : ∀ c ∈ body r ++ z, (! endsAuthority true c) = true := by
    intro c hc
    rcases List.mem_append.mp hc with hc | hc
    · exact List.dropWhile_eq_nil_iff.mp h c hc
    · simp [hz c hc]
  have hr : authorityPart r = body r := List.takeWhile_eq_self_iff.mpr fun c hc => hall c (List.mem_append_left z hc)
  rw [hr, authorityPart, body_append hb]
  exact List.takeWhile_eq_self_iff.mpr hall

/-- An authority that has ended does not go on. -/
theorem parts_append_of_ended (h : tailPart r ≠ []) :
    authorityPart (r ++ z) = authorityPart r ∧ tailPart (r ++ z) = tailPart r ++ z := by
  have hcut : authorityPart r ++ tailPart r = body r := List.takeWhile_append_dropWhile
  have hlen : (authorityPart r).length ≠ (body r).length := by
    rw [← hcut, List.length_append]
    have := List.length_pos_iff.mpr h
    omega
  rw [authorityPart, tailPart, body_append hb, List.takeWhile_append, List.dropWhile_append]
  exact ⟨if_neg hlen, if_neg (by rw [List.isEmpty_iff]; exact h)⟩

end

/-- An authority that has not ended does not end in a slash. -/
theorem not_isSlash_of_open {r : List Char} (h : tailPart r = []) : ∀ c ∈ (body r).getLast?, isSlash true c = false := by
  intro c hc
  have := List.dropWhile_eq_nil_iff.mp h c (List.mem_of_getLast? hc)
  simp only [endsAuthority, Bool.not_eq_true', Bool.or_eq_false_iff] at this
  exact this.1.1

/-- A slash behind an authority is its path. -/
theorem locate_eq_withSlash_of_open (scheme : List Char) (a : Authority) {r : List Char} (h : tailPart r = []) :
    (placeOf scheme a r).locate [] =
      (special scheme a (walk [] (writtenSegments true (tailPart r))) ⟨tailPart r, none, none⟩).withSlash := by
  simp [placeOf, h]
  rfl

/-- A slash behind a path leads to the place of the path, unless there is a slash already, or control characters stand
between. -/
theorem locate_eq_withSlash_iff (scheme : List Char) (a : Authority) {r z q : List Char} {d : Char}
    (hd : isSlash true d = true) (hz : ∀ c ∈ z, isControlOrSpace c = true) (htail : tailPart (r ++ z) = d :: (q ++ z)) :
    (placeOf scheme a (r ++ z)).locate [] =
        (special scheme a (walk [] (writtenSegments true (d :: q))) ⟨d :: q, none, none⟩).withSlash ↔
      z = [] ∧ ∀ c ∈ (d :: q).getLast?, isSlash true c = false := by
  obtain ⟨ls, s, hcut⟩ : ∃ ls s, fields (isSlash true) q = ls ++ [s] :=
    ⟨_, _, (List.dropLast_concat_getLast (fields_ne_nil _ _)).symm⟩
  have hs : '/' ∉ s := fun hm =>
    absurd (not_mem_fields (hcut ▸ List.mem_append_right ls List.mem_cons_self) _ hm) (by decide)
  have hfields : fields (isSlash true) (d :: q) = ([] :: ls) ++ [s] := by
    rw [fields, if_pos hd, hcut]
    rfl
  have hlast : s = [] ↔ ∀ c ∈ (d :: q).getLast?, isSlash true c = true := last_field_eq_nil_iff hfields
  have habove : (placeOf scheme a (r ++ z)).above = enter (ls.foldl enter []) (s ++ z) := by
    rw [placeOf, htail, leading, fields_append_of_free (fun c hc => not_isSlash_of_control (hz c hc)) hcut,
      List.foldl_append]
    rfl
  have hpath : walk [] (writtenSegments true (d :: q)) = walk (ls.foldl enter []) [s] := by
    rw [writtenSegments, if_pos hd, hcut, walk_append _ (List.cons_ne_nil s [])]
  have hurl : (placeOf scheme a (r ++ z)).locate [] =
        (special scheme a (walk [] (writtenSegments true (d :: q))) ⟨d :: q, none, none⟩).withSlash ↔
      enter (ls.foldl enter []) (s ++ z) = if s = [] then ls.foldl enter [] else enter (ls.foldl enter []) s := by
    rw [hpath, Place.locate, habove, withSlash, special, special, withSlash_walk hs]
    simp [fields, walk_nil, splitTail, after?, placeOf]
  rw [hurl, enter_append_iff hz, and_comm, Ne, hlast, List.getLast?_cons]
  simp

/-! ## A slash behind a URL -/

section Slash

variable {t : List Char} {u : Url} (h : parse t = .ok u) (hs : isSpecial u.scheme = true) (ht : Plain (clean t))
include h hs ht

/-- The parts of a plain text that is read as a special URL. -/
theorem parts_of_parse : ∃ r a, splitScheme (clean t) = some (u.scheme, r) ∧ r <:+ clean t ∧
    parseAuthority u.scheme (authorityPart r) = .ok a ∧ authorityPart r ≠ [] ∧ u.authority = some a ∧
    u = special u.scheme a (walk [] (writtenSegments true (tailPart r))) ⟨tailPart r, none, none⟩ := by
  obtain ⟨r, hr, hu⟩ := of_parse h hs
  have hsuf : r <:+ clean t := by
    obtain ⟨-, -, -, -, hd, -⟩ := splitScheme_eq_some hr
    exact (List.suffix_cons ':' r).trans (hd ▸ List.dropWhile_suffix _)
  have htail : Plain (tailPart r) := fun c hc =>
    ht c (hsuf.subset ((List.dropWhile_suffix _).subset ((List.dropWhile_suffix _).subset hc)))
  rw [parseSpecial_eq, splitTail_plain htail] at hu
  cases ha : parseAuthority u.scheme (authorityPart r) with
  | error f => rw [ha] at hu; cases hu
  | ok a =>
    rw [ha] at hu
    have hu : special u.scheme a (walk [] (writtenSegments true (tailPart r))) ⟨tailPart r, none, none⟩ = u :=
      Except.ok.inj hu
    refine ⟨r, a, hr, hsuf, ha, authorityPart_ne_nil hs ha, by rw [← hu]; rfl, hu.symm⟩

omit h in
/-- A plain text with a slash behind it is read at one place if its authority can still be read. -/
theorem parse_slash_eq {r : List Char} (hr : splitScheme (clean t) = some (u.scheme, r)) (hsuf : r <:+ clean t)
    (hb : body r ≠ []) (y : List Char) : parse (t ++ ['/'] ++ y) =
      (parseAuthority u.scheme (authorityPart (r ++ trailing t))).map fun a =>
        (placeOf u.scheme a (r ++ trailing t)).locate (cleanEnd y) := by
  have hplain : Plain (r ++ trailing t) := Plain.append (fun c hc => ht c (hsuf.subset hc)) (plain_trailing t)
  have hb' : body (r ++ trailing t) ≠ [] := by
    rw [body_append hb]
    exact List.append_ne_nil_of_left_ne_nil hb _
  have hread : splitScheme (clean (t ++ ['/'] ++ y)) = some (u.scheme, r ++ trailing t ++ '/' :: cleanEnd y) := by
    rw [clean_append, clean_slash, List.append_assoc, List.append_assoc, splitScheme_append hr, ← List.append_assoc]
    rfl
  rw [parse_of_splitScheme hread hs, parseSpecial_slash u.scheme hb' hplain]

/-- **A plain URL is read again with a slash behind it** from the place that its authority and its path name, whatever
follows the slash. It cannot be read any more only if control characters then stand at the end of its authority, and its
path gains just the slash unless it has one or control characters stand at its end. -/
theorem parse_slash : (trailing t ≠ [] ∧ ∃ f, ∀ y, parse (t ++ ['/'] ++ y) = .error f) ∨
    ∃ p : Place, p.scheme = u.scheme ∧ some p.authority = u.authority ∧
      (∀ y, parse (t ++ ['/'] ++ y) = .ok (p.locate (cleanEnd y))) ∧
      (p.locate [] = u.withSlash ↔ trailing t = [] ∧ ∀ c ∈ (clean t).getLast?, isSlash true c = false) := by
  obtain ⟨r, a, hr, hsuf, ha, hne, hauth, hu⟩ := parts_of_parse h hs ht
  have hb : body r ≠ [] := by
    intro hb
    exact hne (by rw [authorityPart, hb]; rfl)
  have hall := parse_slash_eq hs ht hr hsuf hb
  have hz : ∀ c ∈ trailing t, endsAuthority true c = false := by
    intro c hc
    have hslash := not_isSlash_of_control (isControlOrSpace_of_trailing hc)
    simpa [endsAuthority, hslash] using plain_trailing t c hc
  have hcut : authorityPart r ++ tailPart r = body r := List.takeWhile_append_dropWhile
  have hlast : (clean t).getLast? = (body r).getLast? := getLast?_of_suffix ((List.dropWhile_suffix _).trans hsuf) hb
  cases htail : tailPart r with
  | nil =>
    have hap := authorityPart_append_of_open hb (trailing t) hz htail
    by_cases hnil : trailing t = []
    · refine .inr ⟨placeOf u.scheme a r, rfl, hauth.symm, fun y => ?_, iff_of_true ?_ ⟨hnil, ?_⟩⟩
      · rw [hall, hnil, List.append_nil, ha]
        rfl
      · rw [hu]
        exact locate_eq_withSlash_of_open u.scheme a htail
      · rw [hlast]
        exact not_isSlash_of_open htail
    · obtain ⟨f, hf⟩ := parseAuthority_append hs (authorityPart r) (fun c => isControlOrSpace_of_trailing) hnil
      refine .inl ⟨hnil, f, fun y => ?_⟩
      rw [hall, hap, hf]
      rfl
  | cons d q =>
    obtain ⟨hap, htp⟩ := parts_append_of_ended hb (trailing t) (by rw [htail]; exact List.cons_ne_nil d q)
    refine .inr ⟨placeOf u.scheme a (r ++ trailing t), rfl, hauth.symm, fun y => ?_, ?_⟩
    · rw [hall, hap, ha]
      rfl
    · have hd : isSlash true d = true := head_tailPart (fun c hc => ht c (hsuf.subset hc)) d (by rw [htail]; rfl)
      rw [hu, htail, hlast, ← hcut, htail, getLast?_of_suffix (List.suffix_append _ _) (List.cons_ne_nil d q)]
      exact locate_eq_withSlash_iff u.scheme a hd (fun c => isControlOrSpace_of_trailing) (by rw [htp, htail]; rfl)

end Slash

end Url

end PaymentDesk
