import Mathlib.Data.List.TakeWhile
import PaymentDesk.Proofs.Config.Base
import PaymentDesk.Proofs.Text.Trim
import PaymentDesk.Proofs.Text.Utf8
import PaymentDesk.Proofs.Url.Percent
import PaymentDesk.Proofs.Url.UserInfo

/-!
# Credentials in the base address

A base address may name a user, perhaps with a password, in front of its host. The text of every request is appended to
it, credentials and all, and they are taken out of the URL before anything is sent. **So what is sent is the same with
credentials and without**, but for one header (`outgoing_user`): the user text can hold what it wants, even more
`@` and colons, it never reaches the host, the port or the path.
-/

namespace PaymentDesk

open Text

/-- Headers without the one that tells who asks. -/
def anonymousHeaders (hs : List Header) : List Header := hs.filter (·.1 != "authorization".toList)

/-- A request without the header that tells who asks. -/
def Outgoing.anonymous (o : Outgoing) : Outgoing := { o with headers := anonymousHeaders o.headers }

namespace Text

/-- What is not blank keeps the two sides of a text apart. -/
theorem trim_cut {c d : Char} (hc : isBlank c = false) (hd : isBlank d = false) (x m y : List Char) :
    trim (x ++ c :: (m ++ d :: y)) = trimStart x ++ c :: (m ++ d :: trimEnd y) := by
  have front := Url.dropWhile_append hc x (m ++ d :: y)
  have back := Url.dropWhile_reverse_append hd (x.dropWhile isBlank ++ c :: m) y
  simp only [List.append_assoc, List.cons_append, List.nil_append] at front back
  rw [trim, trimStart, front, trimEnd, back]
  rfl

end Text

namespace Url

/-! ## Users that can be read -/

/-- The user and the password in a text in front of an `@` stand for texts. -/
structure IsReadable (info : List Char) : Prop where
  user : (decoded? (info.takeWhile (· != ':'))).isSome
  password : (decoded? ((info.dropWhile (· != ':')).drop 1)).isSome

theorem decoded?_encode (s : List Char) : decoded? (Percent.encode Percent.inUserInfo s) = decoded? s := by
  have hdigit : ∀ c, (Hexadecimal.digit? c).isSome → Percent.inUserInfo c = true := by
    intro c hc
    have hascii : c.toNat < 128 := by
      by_contra hlarge
      simp only [Hexadecimal.digit?, Char.le_def, UInt32.le_iff_toNat_le] at hc
      change ¬ c.val.toNat < 128 at hlarge
      have hnone (lo hi : Char) (hhi : hi.val.toNat < 128) :
          ¬ (lo.val.toNat ≤ c.val.toNat ∧ c.val.toNat ≤ hi.val.toNat) := by omega
      rw [if_neg (hnone _ _ (by decide)), if_neg (hnone _ _ (by decide)), if_neg (hnone _ _ (by decide))] at hc
      cases hc
    refine Domain.forall_ascii (P := fun c => (Hexadecimal.digit? c).isSome → Percent.inUserInfo c = true) ?_ hascii hc
    decide +kernel
  rw [decoded?, decoded?, Percent.decode_encode (by decide) hdigit]

theorem decoded?_nil : decoded? [] = some [] := Utf8.decode?_encode []

/-- Only nothing stands for nothing. -/
theorem eq_nil_of_decoded? {s : List Char} (h : decoded? s = some []) : s = [] := by
  have hbytes : Percent.decode s = [] := Utf8.decode?_eq_some_iff.mp h
  cases s with
  | nil => rfl
  | cons c r =>
    rw [Percent.decode.eq_def] at hbytes
    split at hbytes
    · next heq => cases heq
    · split at hbytes <;> cases hbytes
    · next heq =>
      exact absurd (List.append_eq_nil_iff.mp hbytes).1 (Utf8.encodeChar_ne_nil _)

/-! ## URLs with a user taken out -/

theorem appendQuery_asUser (pairs : List (List Char × List Char)) (info : List Char) (u : Url) :
    (u.asUser info).appendQuery pairs = (u.appendQuery pairs).asUser info := by
  simp only [appendQuery, asUser]
  split
  · rfl
  · split <;> rfl

/-- A password that can be read is not lost. -/
theorem passwordOf_eq_none {info : List Char} (h : IsReadable info) (hnone : (passwordOf info).bind decoded? = none) :
    passwordOf info = none := by
  have hread := h.password
  rw [passwordOf] at hnone ⊢
  cases hd : info.dropWhile (· != ':') with
  | nil => rfl
  | cons c p =>
    cases p with
    | nil => rfl
    | cons b p =>
      rw [hd, List.drop_one, List.tail_cons] at hread
      rw [hd] at hnone
      have hlost : decoded? (Percent.encode Percent.inUserInfo (b :: p)) = none := hnone
      rw [decoded?_encode] at hlost
      rw [hlost] at hread
      cases hread

section Anonymous

variable {u : Url} {a : Authority} (ha : u.authority = some a) (huser : a.user = []) (hpassword : a.password = none)
include ha huser hpassword

/-- A URL that names nobody stays as it is. -/
theorem takeUserInfo?_anonymous : u.takeUserInfo? = none := by
  rw [takeUserInfo?, ha]
  simp only [huser, hpassword, decoded?_nil]
  rfl

/-- A user in front of it is taken out again; one without a name and a password makes no difference. -/
theorem takeUserInfo?_asUser {info : List Char} (h : IsReadable info) :
    (u.asUser info = u ∧ (u.asUser info).takeUserInfo? = none) ∨
      ∃ user password, (u.asUser info).takeUserInfo? = some (user, password, u) := by
  obtain ⟨user, hname⟩ := Option.isSome_iff_exists.mp h.user
  have hau : (u.asUser info).authority = some (a.asUser info) := by rw [asUser, ha]; rfl
  have hbare : a = { a.asUser info with user := [], password := none } := by
    rw [← huser, ← hpassword]
    rfl
  have hdecode : decoded? (a.asUser info).user = some user := (decoded?_encode _).trans hname
  by_cases hnobody : user = [] ∧ (passwordOf info).bind decoded? = none
  · -- neither a name nor a password is written
    obtain ⟨rfl, hnone⟩ := hnobody
    have hsame : a.asUser info = a := by
      have hempty : info.takeWhile (· != ':') = [] := eq_nil_of_decoded? hname
      rw [Authority.asUser, userOf, hempty, passwordOf_eq_none h hnone]
      exact hbare.symm
    have hu : u.asUser info = u := by
      rw [asUser, ha, Option.map_some, hsame, ← ha]
    exact .inl ⟨hu, hu.symm ▸ takeUserInfo?_anonymous ha huser hpassword⟩
  · refine .inr ⟨user, (passwordOf info).bind decoded?, ?_⟩
    rw [takeUserInfo?, hau]
    have hsome : (user.isEmpty && ((passwordOf info).bind decoded?).isNone) = false := by
      rw [Bool.eq_false_iff]
      simpa using hnobody
    have hback : { u.asUser info with authority := some { a.asUser info with user := [], password := none } } = u := by
      rw [← hbare, ← ha]
      rfl
    simp only [hdecode]
    rw [show (a.asUser info).password = passwordOf info from rfl, hsome, hback]
    rfl

end Anonymous

/-! ## Texts that a user can be written in front of -/

theorem mem_takeWhile_append {p : Char → Bool} {c : Char} {x : List Char} (h : c ∈ x.takeWhile p) (t : List Char) :
    c ∈ (x ++ t).takeWhile p := by
  rw [List.takeWhile_append]
  split
  · exact List.mem_append_left _ ((List.takeWhile_prefix p).subset h)
  · exact h

/-- So is every beginning of such a text. -/
theorem Userless.of_prefix {s x : List Char} (h : Userless s) (hx : x <+: s) : Userless x where
  head := by
    intro c hc
    obtain ⟨t, rfl⟩ := hx
    cases x with
    | nil => cases hc
    | cons d r => exact h.head c hc
  free := by
    intro hat
    obtain ⟨t, rfl⟩ := hx
    exact h.free (mem_takeWhile_append hat t)

/-- What follows a slash does not matter. -/
theorem Userless.slash {x : List Char} (h : Userless x) (hne : x ≠ []) (y : List Char) : Userless (x ++ '/' :: y) where
  head := by
    intro c hc
    obtain ⟨d, r, rfl⟩ := List.exists_cons_of_ne_nil hne
    exact h.head c hc
  free := by
    have hcut : (x ++ '/' :: y).takeWhile (! endsAuthority true ·) = x.takeWhile (! endsAuthority true ·) := by
      rw [List.takeWhile_append]
      split
      · next hall =>
        rw [List.takeWhile_cons_of_neg (by decide), List.append_nil, (List.takeWhile_prefix _).eq_of_length hall]
      · rfl
    rw [hcut]
    exact h.free

/-- A special URL is read behind its colon, with the scheme in front of it. -/
theorem special_of_parse {z t : List Char} {u : Url} (hz : ':' ∉ z) (h : parse (z ++ ':' :: t) = .ok u)
    (hs : isSpecial u.scheme = true) :
    (∀ scheme ∈ schemeNamed? (cleanStart z), isSpecial scheme = true) ∧ parseSpecial u.scheme (cleanEnd t) = .ok u := by
  obtain ⟨r, hr, hu⟩ := of_parse h hs
  rw [clean_cut (by decide), splitScheme_colon (colon_cleanStart hz)] at hr
  obtain ⟨scheme, hscheme, heq⟩ := Option.map_eq_some_iff.mp hr
  cases heq
  refine ⟨fun scheme hmem => ?_, hu⟩
  rw [hscheme] at hmem
  cases hmem
  exact hs

/-- Without a host a special URL cannot be read. -/
theorem ne_nil_of_parse {z t : List Char} {u : Url} (hz : ':' ∉ z) (h : parse (z ++ ':' :: '/' :: '/' :: t) = .ok u)
    (hs : isSpecial u.scheme = true) : t ≠ [] := by
  rintro rfl
  have hread : parseSpecial u.scheme ['/', '/'] = .ok u := (special_of_parse hz h hs).2
  rw [parseSpecial_eq] at hread
  cases ha : parseAuthority u.scheme (authorityPart ['/', '/']) with
  | error f =>
    rw [ha] at hread
    cases hread
  | ok a => exact authorityPart_ne_nil hs ha rfl

/-- Only the end of a text without tabs and line ends is cleaned. -/
theorem cleanEnd_isPrefix {s : List Char} (h : ∀ c ∈ s, isTabOrLineEnd c = false) : cleanEnd s <+: s := by
  obtain ⟨z, hz, -⟩ := cleanEnd_cut h
  exact ⟨z, hz.symm⟩

end Url

namespace Config

/-- A slash at the end of a text is one at the end of what it ends. -/
theorem withSlash_append {t : List Char} (ht : t ≠ []) (x : List Char) : withSlash (x ++ t) = x ++ withSlash t := by
  rw [withSlash, withSlash, List.getLast?_append, List.getLast?_eq_some_getLast ht, Option.some_or]
  split
  · rfl
  · rw [List.append_assoc]

section Base

variable {scheme rest info id : List Char} {timeout : Option Nat} {c : Config}

/-- An address with two slashes behind its scheme, trimmed. -/
theorem trim_base (scheme rest : List Char) :
    trim (scheme ++ "://".toList ++ rest) = trimStart scheme ++ ':' :: '/' :: '/' :: trimEnd rest := by
  rw [List.append_assoc]
  exact trim_cut (c := ':') (d := '/') rfl rfl scheme ['/'] rest

/-- The same with a user. -/
theorem trim_base_user (scheme info rest : List Char) : trim (scheme ++ "://".toList ++ info ++ '@' :: rest) =
    trimStart scheme ++ ':' :: '/' :: '/' :: (info ++ '@' :: trimEnd rest) := by
  rw [List.append_assoc, List.append_assoc]
  exact trim_cut (c := ':') (d := '@') rfl rfl scheme ('/' :: '/' :: info) rest

section Accepted

variable (hcolon : ':' ∉ scheme) (hrest : Url.Userless rest) (hflat : ∀ c ∈ rest, Url.isTabOrLineEnd c = false)
  (hc : make (scheme ++ "://".toList ++ rest) id timeout = .ok c)
include hcolon hc

/-- What an accepted address consists of. -/
theorem parts_of_make : ':' ∉ trimStart scheme ∧ trimEnd rest ≠ [] ∧
    (∀ s ∈ Url.schemeNamed? (Url.cleanStart (trimStart scheme)), Url.isSpecial s = true) ∧
    (∃ u, checkBase (trimStart scheme ++ ':' :: '/' :: '/' :: trimEnd rest) = .ok u) ∧
    c.baseUrl = trimStart scheme ++ ':' :: '/' :: '/' :: withSlash (trimEnd rest) ∧ c.serviceId = id := by
  obtain ⟨hbase, hid, u, hcheck⟩ := of_make hc
  rw [trim_base] at hbase hcheck
  obtain ⟨hp, hh, -⟩ := of_checkBase hcheck
  have hs := isSpecial_of_isHttp hh
  have hz : ':' ∉ trimStart scheme := fun h => hcolon ((List.dropWhile_suffix _).subset h)
  have hne := Url.ne_nil_of_parse hz hp hs
  refine ⟨hz, hne, (Url.special_of_parse hz hp hs).1, ⟨u, hcheck⟩, ?_, hid⟩
  have hslash := withSlash_append hne (trimStart scheme ++ "://".toList)
  rw [List.append_assoc, List.append_assoc] at hslash
  exact hbase.trans hslash

include hrest hflat

/-- Nothing behind the two slashes hides the place in front of which a user can stand. -/
theorem userless_address (y : List Char) : Url.Userless (Url.cleanEnd (trimEnd rest)) ∧
    Url.Userless (Url.cleanEnd (withSlash (trimEnd rest) ++ y)) := by
  have hflat' : ∀ c ∈ trimEnd rest, Url.isTabOrLineEnd c = false := fun c hc =>
    hflat c ((trimEnd_isPrefix rest).subset hc)
  constructor
  · exact hrest.of_prefix ((Url.cleanEnd_isPrefix hflat').trans (trimEnd_isPrefix rest))
  obtain ⟨x, hx, hcut⟩ := withSlash_eq (trimEnd rest)
  have hbegins : x <+: rest := by
    rcases hcut with hcut | hcut
    · exact (hcut ▸ List.prefix_append x ['/']).trans (trimEnd_isPrefix rest)
    · exact hcut ▸ trimEnd_isPrefix rest
  have hne : x ≠ [] := by
    rintro rfl
    rcases hcut with hcut | hcut
    · -- the text would begin with its last slash
      have hhead := (hrest.of_prefix (trimEnd_isPrefix rest)).head '/' (by rw [hcut]; rfl)
      exact absurd hhead (by decide)
    · exact (parts_of_make hcolon hc).2.1 hcut
  have hfilter : x.filter (! Url.isTabOrLineEnd ·) = x := by
    rw [List.filter_eq_self]
    exact fun c hc => by simp [hflat c (hbegins.subset hc)]
  rw [hx, List.append_assoc, List.singleton_append, Url.cleanEnd_append (by decide), hfilter]
  exact (hrest.of_prefix hbegins).slash hne _

variable (hinfo : Url.IsUserInfo info)
include hinfo

/-- **The address is accepted with a user**, and kept with it. -/
theorem make_user : ∃ c', make (scheme ++ "://".toList ++ info ++ '@' :: rest) id timeout = .ok c' ∧
    c'.baseUrl = trimStart scheme ++ ':' :: '/' :: '/' :: (info ++ '@' :: withSlash (trimEnd rest)) ∧
    c'.serviceId = c.serviceId := by
  obtain ⟨hz, hne, hscheme, ⟨u, hcheck⟩, -, hid⟩ := parts_of_make hcolon hc
  obtain ⟨hp, hh, hq, hf⟩ := of_checkBase hcheck
  have hcheck' : checkBase (trimStart scheme ++ ':' :: '/' :: '/' :: (info ++ '@' :: trimEnd rest)) =
      .ok (u.asUser info) := by
    have hp' := Url.parse_asUser hz hscheme (userless_address hcolon hrest hflat hc []).1 hinfo
    rw [hp] at hp'
    have hh' : isHttp (u.asUser info) = true := hh
    have hq' : (u.asUser info).query = none := hq
    have hf' : (u.asUser info).fragment = none := hf
    simp only [checkBase, hp', Except.map, hh', hq', hf']
    rfl
  have hslash : withSlash (trimStart scheme ++ ':' :: '/' :: '/' :: (info ++ '@' :: trimEnd rest)) =
      trimStart scheme ++ ':' :: '/' :: '/' :: (info ++ '@' :: withSlash (trimEnd rest)) := by
    have := withSlash_append hne (trimStart scheme ++ ':' :: '/' :: '/' :: (info ++ ['@']))
    simpa only [List.append_assoc, List.cons_append, List.nil_append] using this
  simp only [make, trim_base, hcheck] at hc
  simp only [make, trim_base_user, hcheck', hslash]
  split at hc
  · cases hc
  · next hheader =>
    cases hc
    rw [if_neg hheader]
    exact ⟨_, rfl, rfl, rfl⟩

/-- **Requests have the same addresses**, but for the user in them. -/
theorem urlFor_user {c' : Config}
    (hc' : c'.baseUrl = trimStart scheme ++ ':' :: '/' :: '/' :: (info ++ '@' :: withSlash (trimEnd rest)))
    (r : Request) : c'.urlFor r = (c.urlFor r).map (·.asUser info) ∧
      ∀ u, c.urlFor r = .ok u → ∃ a, u.authority = some a ∧ a.user = [] ∧ a.password = none := by
  obtain ⟨hz, -, hscheme, -, hbase, -⟩ := parts_of_make hcolon hc
  have huserless := (userless_address hcolon hrest hflat hc r.path).2
  have hread := Url.parse_asUser hz hscheme huserless hinfo
  have hbase' : c.baseUrl ++ r.path =
      trimStart scheme ++ ':' :: '/' :: '/' :: (withSlash (trimEnd rest) ++ r.path) := by
    simp only [hbase, List.append_assoc, List.cons_append]
  have huser : c'.baseUrl ++ r.path =
      trimStart scheme ++ ':' :: '/' :: '/' :: (info ++ '@' :: (withSlash (trimEnd rest) ++ r.path)) := by
    simp only [hc', List.append_assoc, List.cons_append]
  rw [urlFor, urlFor, huser, hread, hbase']
  cases hp : Url.parse (trimStart scheme ++ ':' :: '/' :: '/' :: (withSlash (trimEnd rest) ++ r.path)) with
  | error f => exact ⟨rfl, fun u hu => by cases hu⟩
  | ok u =>
    refine ⟨congrArg Except.ok (Url.appendQuery_asUser r.query info u), fun v hv => ?_⟩
    obtain ⟨q, hq⟩ := Url.appendQuery_eq r.query u
    cases hv
    rw [hq]
    obtain ⟨a, ha, hnobody⟩ := Url.of_parse_userless hz hscheme huserless hp
    exact ⟨a, ha, hnobody⟩

/-- **What is sent is the same**, but for the header that tells who asks. -/
theorem outgoing_user (hread : Url.IsReadable info) {c' : Config}
    (hc' : c'.baseUrl = trimStart scheme ++ ':' :: '/' :: '/' :: (info ++ '@' :: withSlash (trimEnd rest)))
    (hid : c'.serviceId = c.serviceId) (r : Request) :
    c.outgoing r = (c'.outgoing r).map Outgoing.anonymous ∧
      ∀ o, c.outgoing r = .ok o → ∀ h ∈ o.headers, h.1 ≠ "authorization".toList := by
  obtain ⟨haddress, hnobody⟩ := urlFor_user hcolon hrest hflat hc hinfo hc' r
  have hheaders : c'.fixedHeaders = c.fixedHeaders := by rw [fixedHeaders, fixedHeaders, hid]
  have hfixed : ∀ h ∈ c.fixedHeaders, h.1 ≠ "authorization".toList := by
    intro h hmem
    rcases List.mem_cons.mp hmem with rfl | hmem
    · decide
    · rw [List.mem_singleton.mp hmem]
      exact (by decide : "service_id".toList ≠ "authorization".toList)
  have hfilter : anonymousHeaders c.fixedHeaders = c.fixedHeaders :=
    List.filter_eq_self.mpr fun h hmem => bne_iff_ne.mpr (hfixed h hmem)
  rw [outgoing, outgoing, haddress]
  cases hu : c.urlFor r with
  | error e => exact ⟨rfl, fun o ho => by cases ho⟩
  | ok u =>
    obtain ⟨a, ha, huser, hpassword⟩ := hnobody u hu
    have hbare := Url.takeUserInfo?_anonymous ha huser hpassword
    simp only [Except.map, hbare]
    refine ⟨?_, fun o ho => by cases ho; exact hfixed⟩
    rcases Url.takeUserInfo?_asUser ha huser hpassword hread with ⟨hsame, hnone⟩ | ⟨user, password, hsome⟩
    · rw [hnone, hsame]
      simp only [Outgoing.anonymous, hheaders, hfilter]
    · rw [hsome]
      simp only [Outgoing.anonymous, hheaders]
      rw [anonymousHeaders, List.filter_cons_of_neg (by simp)]
      exact congrArg (fun hs => Except.ok (Outgoing.mk r.method u hs _)) hfilter.symm

end Accepted

end Base

end Config

end PaymentDesk
