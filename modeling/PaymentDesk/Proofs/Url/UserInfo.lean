import PaymentDesk.Proofs.Url.Slash

/-!
# A user in front of a host

A user, perhaps with a password behind a colon, stands in front of the host of a special URL, and an `@` ends it. Since
the last `@` of an authority counts, whatever stands before it is user and password, further `@` and brackets included.
**So a URL is read with a user as it is read without** (`parse_asUser`): it fails alike, and otherwise only the user and
the password are other ones (`Url.asUser`).
-/

namespace PaymentDesk.Url

open Text

/-! ## Texts in front of a colon -/

/-- The text in front of what stays, cleaned. -/
def cleanStart (x : List Char) : List Char := (x.dropWhile isControlOrSpace).filter (! isTabOrLineEnd ·)

section Cut

variable {c : Char} (hc : isControlOrSpace c = false) (x y : List Char)
include hc

/-- On both sides of a character that stays, a text is cleaned on its own. -/
theorem clean_cut : clean (x ++ c :: y) = cleanStart x ++ c :: cleanEnd y := by
  have front := dropWhile_append hc x y
  have back := dropWhile_reverse_append hc (x.dropWhile isControlOrSpace) y
  rw [clean, List.append_cons, front, back, cleanEnd, cleanStart]
  simp [not_isTabOrLineEnd hc]

theorem cleanEnd_append : cleanEnd (x ++ c :: y) = x.filter (! isTabOrLineEnd ·) ++ c :: cleanEnd y := by
  have back := dropWhile_reverse_append hc x y
  rw [cleanEnd, List.append_cons, back, cleanEnd]
  simp [not_isTabOrLineEnd hc]

end Cut

theorem colon_cleanStart {z : List Char} (hz : ':' ∉ z) : ':' ∉ cleanStart z :=
  fun h => hz ((List.dropWhile_suffix _).subset (List.mem_filter.mp h).1)

/-- The scheme with this name, if it is one. -/
def schemeNamed? (z : List Char) : Option (List Char) :=
  if (z.headD ':').isAlpha && z.all isSchemeChar then some (z.map Char.toLower) else none

/-- The first colon ends the scheme, if there is one. -/
theorem splitScheme_colon {z : List Char} (hz : ':' ∉ z) (y : List Char) :
    splitScheme (z ++ ':' :: y) = (schemeNamed? z).map fun scheme => (scheme, y) := by
  have hhead : (z ++ ':' :: y).headD ':' = z.headD ':' := by cases z <;> rfl
  rw [splitScheme, hhead, schemeNamed?]
  cases hall : z.all isSchemeChar with
  | true =>
    have hz' := List.all_eq_true.mp hall
    have hdrop : (z ++ ':' :: y).dropWhile isSchemeChar = ':' :: y := by
      rw [List.dropWhile_append_of_pos hz']
      rfl
    have htake : (z ++ ':' :: y).takeWhile isSchemeChar = z := by
      rw [List.takeWhile_append_of_pos hz', List.takeWhile_cons_of_neg (by decide), List.append_nil]
    rw [hdrop, htake]
    cases (z.headD ':').isAlpha <;> rfl
  | false =>
    -- some other character ends the scheme before the colon does
    rw [Bool.and_false, if_neg Bool.false_ne_true]
    have hne : z.dropWhile isSchemeChar ≠ [] := by
      intro hnil
      rw [List.all_eq_true.mpr (List.dropWhile_eq_nil_iff.mp hnil)] at hall
      cases hall
    obtain ⟨d, t, hd⟩ := List.exists_cons_of_ne_nil hne
    have hdrop : (z ++ ':' :: y).dropWhile isSchemeChar = d :: (t ++ ':' :: y) := by
      rw [List.dropWhile_append, hd]
      rfl
    have hcolon : d ≠ ':' := by
      rintro rfl
      exact hz ((List.dropWhile_suffix isSchemeChar).subset (hd ▸ List.mem_cons_self))
    rw [hdrop]
    split
    · next heq =>
      cases heq
      exact absurd rfl hcolon
    · rfl

/-- What stands behind the first colon is read for the scheme in front of it. -/
theorem parse_colon {z : List Char} (hz : ':' ∉ z) (y : List Char) : parse (z ++ ':' :: y) =
    match schemeNamed? (cleanStart z) with
    | some scheme => parseAfterScheme scheme (cleanEnd y)
    | none => .error .relative := by
  rw [parse, clean_cut (by decide), splitScheme_colon (colon_cleanStart hz)]
  cases schemeNamed? (cleanStart z) <;> rfl

/-! ## Authorities -/

/-- An authority with a user, and perhaps a password, as they are written in front of an `@`. -/
def Authority.asUser (info : List Char) (a : Authority) : Authority :=
  { a with user := userOf info, password := passwordOf info }

theorem splitUserInfo_of_free {s : List Char} (hs : '@' ∉ s) : splitUserInfo s = (none, s) := by
  have hhost : (s.reverse.takeWhile (· != '@')).reverse = s := by
    rw [List.reverse_eq_iff, List.takeWhile_eq_self_iff]
    intro c hc
    rw [bne_iff_ne]
    rintro rfl
    exact hs (List.mem_reverse.mp hc)
  simp only [splitUserInfo, hhost, if_true]

theorem splitUserInfo_user {s : List Char} (hs : '@' ∉ s) (info : List Char) :
    splitUserInfo (info ++ '@' :: s) = (some info, s) := by
  have hfree : ∀ c ∈ s.reverse, (c != '@') = true := by
    intro c hc
    rw [bne_iff_ne]
    rintro rfl
    exact hs (List.mem_reverse.mp hc)
  have hhost : ((info ++ '@' :: s).reverse.takeWhile (· != '@')).reverse = s := by
    rw [List.reverse_append, List.reverse_cons, List.append_assoc, List.takeWhile_append_of_pos hfree]
    simp
  have hlength : (info ++ '@' :: s).length = info.length + (s.length + 1) := by simp
  have htake : (info ++ '@' :: s).length - s.length - 1 = info.length := by omega
  simp only [splitUserInfo, hhost, htake, List.take_left']
  rw [if_neg (by omega)]

/-- In a special URL there is a host. -/
theorem Host.ne_nil_of_parseHost {s : List Char} {host : Host} (h : parseHost true s = .ok host) :
    host ≠ .domain [] := by
  rintro rfl
  simp only [parseHost, Bool.not_true, Bool.false_eq_true, if_false] at h
  split at h
  · cases h
  · rw [Host.parse.eq_def] at h
    split at h
    · next r =>
      rw [Host.bracketed] at h
      split at h
      · split at h <;> cases h
      · cases h
    · split at h
      · cases h
      · cases h
      · next name hne hname =>
        split at h
        · split at h <;> cases h
        · cases h
          exact hne rfl

section Special

variable {scheme : List Char} (hs : isSpecial scheme = true)
include hs

/-- In a special URL the authority is a user, a host and a port, and nothing else is asked of it. -/
theorem parseAuthority_eq (s : List Char) : parseAuthority scheme s =
    (parseHost true (splitPort false (splitUserInfo s).2).1).bind fun host =>
      (parsePort scheme (splitPort false (splitUserInfo s).2).2).map fun port =>
        ⟨((splitUserInfo s).1.map userOf).getD [], (splitUserInfo s).1.bind passwordOf, host, port⟩ := by
  rw [parseAuthority, hs]
  simp only [bind]
  cases hhost : parseHost true (splitPort false (splitUserInfo s).2).1 with
  | error f => rfl
  | ok host =>
    have hne : (host == Host.domain []) = false := beq_eq_false_iff_ne.mpr (Host.ne_nil_of_parseHost hhost)
    simp only [Except.bind, hne, Bool.false_and, Bool.false_eq_true, if_false]
    cases parsePort scheme (splitPort false (splitUserInfo s).2).2 <;> rfl

/-- Without an `@` there is neither a user nor a password. -/
theorem of_parseAuthority_free {s : List Char} (hfree : '@' ∉ s) {a : Authority}
    (h : parseAuthority scheme s = .ok a) : a.user = [] ∧ a.password = none := by
  rw [parseAuthority_eq hs, splitUserInfo_of_free hfree] at h
  cases hhost : parseHost true (splitPort false s).1 with
  | error f =>
    rw [hhost] at h
    cases h
  | ok host =>
    rw [hhost] at h
    cases hport : parsePort scheme (splitPort false s).2 with
    | error f =>
      simp only [Except.bind, hport] at h
      cases h
    | ok port =>
      simp only [Except.bind, hport] at h
      cases h
      exact ⟨rfl, rfl⟩

/-- A user and a password in front change nothing else. -/
theorem parseAuthority_user {s : List Char} (hfree : '@' ∉ s) (info : List Char) :
    parseAuthority scheme (info ++ '@' :: s) = (parseAuthority scheme s).map (·.asUser info) := by
  rw [parseAuthority_eq hs, parseAuthority_eq hs, splitUserInfo_user hfree, splitUserInfo_of_free hfree]
  simp only
  cases parseHost true (splitPort false s).1 with
  | error f => rfl
  | ok host =>
    simp only [Except.bind]
    cases parsePort scheme (splitPort false s).2 <;> rfl

end Special

/-! ## URLs -/

/-- A URL with a user, and perhaps a password. -/
def asUser (info : List Char) (u : Url) : Url := { u with authority := u.authority.map (·.asUser info) }

/-- A text that a user can be written in front of: it does not begin with a slash, and there is no `@` before the first
one. -/
structure Userless (s : List Char) : Prop where
  head : ∀ c ∈ s.head?, isSlash true c = false
  free : '@' ∉ s.takeWhile (! endsAuthority true ·)

/-- A text that can be written in front of an `@`: nothing in it ends an authority, or counts for nothing. -/
def IsUserInfo (info : List Char) : Prop := ∀ c ∈ info, endsAuthority true c = false ∧ isTabOrLineEnd c = false

section Parts

variable {s : List Char} (hs : Userless s)
include hs

theorem body_userless : body ('/' :: '/' :: s) = s := by
  have hhead : s.dropWhile (isSlash true) = s := by
    cases s with
    | nil => rfl
    | cons c r => exact List.dropWhile_cons_of_neg (by simp [hs.head c rfl])
  rw [body, List.dropWhile_cons_of_pos rfl, List.dropWhile_cons_of_pos rfl, hhead]

omit hs in
theorem body_user {info : List Char} (hinfo : IsUserInfo info) :
    body ('/' :: '/' :: (info ++ '@' :: s)) = info ++ '@' :: s := by
  have hhead : (info ++ '@' :: s).dropWhile (isSlash true) = info ++ '@' :: s := by
    cases info with
    | nil => exact List.dropWhile_cons_of_neg (by decide)
    | cons c r =>
      have hc := (hinfo c List.mem_cons_self).1
      simp only [endsAuthority, Bool.or_eq_false_iff] at hc
      exact List.dropWhile_cons_of_neg (by simp [hc.1.1])
  rw [body, List.dropWhile_cons_of_pos rfl, List.dropWhile_cons_of_pos rfl, hhead]

/-- A user belongs to the authority, and what follows the authority is the same. -/
theorem parts_user {info : List Char} (hinfo : IsUserInfo info) :
    authorityPart ('/' :: '/' :: (info ++ '@' :: s)) = info ++ '@' :: authorityPart ('/' :: '/' :: s) ∧
      tailPart ('/' :: '/' :: (info ++ '@' :: s)) = tailPart ('/' :: '/' :: s) := by
  have hgo : ∀ c ∈ info, (! endsAuthority true c) = true := fun c hc => by simp [(hinfo c hc).1]
  have hat : (! endsAuthority true '@') = true := by decide
  constructor
  · rw [authorityPart, authorityPart, body_user hinfo, body_userless hs, List.takeWhile_append_of_pos hgo,
      List.takeWhile_cons_of_pos (p := (! endsAuthority true ·)) hat]
  · rw [tailPart, tailPart, body_user hinfo, body_userless hs, List.dropWhile_append_of_pos hgo,
      List.dropWhile_cons_of_pos (p := (! endsAuthority true ·)) hat]

/-- A special URL is read with a user as it is read without. -/
theorem parseSpecial_user {scheme info : List Char} (hscheme : isSpecial scheme = true) (hinfo : IsUserInfo info) :
    parseSpecial scheme ('/' :: '/' :: (info ++ '@' :: s)) =
      (parseSpecial scheme ('/' :: '/' :: s)).map (·.asUser info) := by
  obtain ⟨hauthority, htail⟩ := parts_user hs hinfo
  have hfree : '@' ∉ authorityPart ('/' :: '/' :: s) := by
    rw [authorityPart, body_userless hs]
    exact hs.free
  rw [parseSpecial_eq, parseSpecial_eq, hauthority, htail, parseAuthority_user hscheme hfree]
  cases parseAuthority scheme (authorityPart ('/' :: '/' :: s)) <;> rfl

/-- A special URL without an `@` names nobody. -/
theorem of_parseSpecial_userless {scheme : List Char} (hscheme : isSpecial scheme = true) {u : Url}
    (h : parseSpecial scheme ('/' :: '/' :: s) = .ok u) :
    ∃ a, u.authority = some a ∧ a.user = [] ∧ a.password = none := by
  have hfree : '@' ∉ authorityPart ('/' :: '/' :: s) := by
    rw [authorityPart, body_userless hs]
    exact hs.free
  rw [parseSpecial_eq] at h
  cases ha : parseAuthority scheme (authorityPart ('/' :: '/' :: s)) with
  | error f =>
    rw [ha] at h
    cases h
  | ok a =>
    rw [ha] at h
    cases h
    exact ⟨a, rfl, of_parseAuthority_free hscheme hfree ha⟩

end Parts

section Texts

variable {z info t : List Char} (hz : ':' ∉ z)
  (hscheme : ∀ scheme ∈ schemeNamed? (cleanStart z), isSpecial scheme = true) (ht : Userless (cleanEnd t))
include hz hscheme ht

/-- **A URL is read with a user as it is read without.** -/
theorem parse_asUser (hinfo : IsUserInfo info) : parse (z ++ ':' :: '/' :: '/' :: (info ++ '@' :: t)) =
    (parse (z ++ ':' :: '/' :: '/' :: t)).map (·.asUser info) := by
  have hslashes (y : List Char) : cleanEnd ('/' :: '/' :: y) = '/' :: '/' :: cleanEnd y :=
    cleanEnd_append (c := '/') (by decide) ['/'] y
  have hfilter : info.filter (! isTabOrLineEnd ·) = info := by
    rw [List.filter_eq_self]
    exact fun c hc => by simp [(hinfo c hc).2]
  rw [parse_colon hz, parse_colon hz, hslashes, hslashes, cleanEnd_append (c := '@') (by decide), hfilter]
  cases hsch : schemeNamed? (cleanStart z) with
  | none => rfl
  | some scheme =>
    have hspecial := hscheme scheme hsch
    simp only [parseAfterScheme, if_pos hspecial]
    exact parseSpecial_user ht hspecial hinfo

/-- Without an `@` it names nobody. -/
theorem of_parse_userless {u : Url} (h : parse (z ++ ':' :: '/' :: '/' :: t) = .ok u) :
    ∃ a, u.authority = some a ∧ a.user = [] ∧ a.password = none := by
  have hslashes : cleanEnd ('/' :: '/' :: t) = '/' :: '/' :: cleanEnd t :=
    cleanEnd_append (c := '/') (by decide) ['/'] t
  rw [parse_colon hz, hslashes] at h
  cases hsch : schemeNamed? (cleanStart z) with
  | none =>
    rw [hsch] at h
    cases h
  | some scheme =>
    have hspecial := hscheme scheme hsch
    simp only [hsch, parseAfterScheme, if_pos hspecial] at h
    exact of_parseSpecial_userless ht hspecial h

end Texts

end PaymentDesk.Url
