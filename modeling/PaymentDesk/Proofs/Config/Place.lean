import PaymentDesk.Proofs.Url.Reading
import PaymentDesk.Wire.Outgoing

/-!
# The place of the service

Checked settings whose base address can be read name one place, and every request is addressed from there: its path is
read behind the last slash of the base address, whatever it holds (`Config.urlFor_eq`). In particular every request has
an address then (`Config.urlFor_ok`).
-/

namespace PaymentDesk.Config

open Text

/-- Tabs and line ends are blank. -/
theorem not_isTabOrLineEnd_of_not_isBlank {c : Char} (hc : isBlank c = false) : Url.isTabOrLineEnd c = false := by
  rw [Url.isTabOrLineEnd, Bool.eq_false_iff]
  intro h
  simp only [Bool.or_eq_true, beq_iff_eq] at h
  rcases h with (rfl | rfl) | rfl <;> revert hc <;> decide

/-! ## Checked settings -/

/-- The schemes over which requests can be sent are special. -/
theorem isSpecial_of_isHttp {u : Url} (h : isHttp u = true) : Url.isSpecial u.scheme = true := by
  simp only [isHttp, Bool.or_eq_true, beq_iff_eq] at h
  rcases h with h | h <;> rw [h] <;> rfl

/-- What was checked of a base address. -/
theorem of_checkBase {base : List Char} {u : Url} (h : checkBase base = .ok u) :
    Url.parse base = .ok u ∧ isHttp u = true ∧ u.query = none ∧ u.fragment = none := by
  rw [checkBase] at h
  split at h
  · cases h
  · next u' hu =>
    split at h
    · cases h
    split at h
    · cases h
    next hh hqf =>
    cases h
    simp only [Bool.or_eq_true, not_or, Option.not_isSome_iff_eq_none] at hqf
    exact ⟨hu, by simpa using hh, hqf⟩

/-- What was checked of settings. -/
theorem of_make {base id : List Char} {timeout : Option Nat} {c : Config} (h : make base id timeout = .ok c) :
    c.baseUrl = withSlash (trim base) ∧ c.serviceId = id ∧ ∃ u, checkBase (trim base) = .ok u := by
  simp only [make] at h
  split at h
  · cases h
  · next u hu =>
    split at h
    · cases h
    · cases h
      exact ⟨rfl, rfl, u, hu⟩

/-- A base address ends with a slash, and is the checked one but for it. -/
theorem withSlash_eq (t : List Char) : ∃ x, withSlash t = x ++ ['/'] ∧ (t = x ++ ['/'] ∨ t = x) := by
  rw [withSlash]
  split
  · next h =>
    rw [beq_iff_eq, List.getLast?_eq_some_iff] at h
    obtain ⟨x, rfl⟩ := h
    exact ⟨x, rfl, Or.inl rfl⟩
  · exact ⟨t, rfl, Or.inr rfl⟩

/-- A checked base address that can be read has the checked scheme, and holds neither `?` nor `#`. -/
theorem base_of_checkBase {t : List Char} {u u' : Url} (h : checkBase t = .ok u')
    (hu : Url.parse (withSlash t) = .ok u) :
    Url.isSpecial u.scheme = true ∧ Url.Plain (Url.clean (withSlash t)) := by
  obtain ⟨hp, hh, hq, hf⟩ := of_checkBase h
  have hs := isSpecial_of_isHttp hh
  have hplain := Url.plain_clean hp hs hq hf
  obtain ⟨x, hx, rfl | rfl⟩ := withSlash_eq t
  · rw [hx] at hu ⊢
    rw [hp] at hu
    cases hu
    exact ⟨hs, hplain⟩
  · rw [hx] at hu ⊢
    obtain ⟨r, hr, -⟩ := Url.of_parse hp hs
    have hr' : Url.splitScheme (Url.clean (t ++ ['/'])) = some (u'.scheme, r ++ (Url.trailing t ++ ['/'])) := by
      rw [Url.clean_slash, List.append_assoc, Url.splitScheme_append hr]
    rw [Url.parse_of_splitScheme hr' hs] at hu
    refine ⟨by rw [Url.scheme_of_parseSpecial hu]; exact hs, ?_⟩
    rw [Url.clean_slash]
    refine (hplain.append (Url.plain_trailing t)).append fun c hc => ?_
    rw [List.mem_singleton.mp hc]
    decide

/-- The address of the default settings. -/
def deskUrl : Url where
  scheme := "http".toList
  authority := some { host := .domain "localhost".toList, port := some 8181 }
  path := .segments ["payments".toList, []]

/-- The address without a path is the base address as it is read. -/
theorem parse_of_urlFor {c : Config} {u : Url} (hu : c.urlFor (.get []) = .ok u) : Url.parse c.baseUrl = .ok u := by
  rw [urlFor, show (Request.get []).path = [] from rfl, List.append_nil] at hu
  split at hu
  · cases hu
  · next v hv =>
    cases hu
    exact hv

section Address

variable {base id : List Char} {timeout : Option Nat} {c : Config} {u : Url}
  (hc : make base id timeout = .ok c) (hu : c.urlFor (.get []) = .ok u)
include hc hu

/-- **Requests are addressed from one place**, when the base address can be read at all. -/
theorem urlFor_eq : ∃ p : Url.Place, u = p.locate [] ∧
    ∀ r, c.urlFor r = .ok ((p.locate (Url.cleanEnd r.path)).appendQuery r.query) := by
  obtain ⟨hbase, -, u', hcheck⟩ := of_make hc
  have hp := parse_of_urlFor hu
  rw [hbase] at hp
  obtain ⟨hs, hplain⟩ := base_of_checkBase hcheck hp
  obtain ⟨x, hx, -⟩ := withSlash_eq (trim base)
  rw [hx] at hp hplain hbase
  obtain ⟨p, hall⟩ := Url.parse_append hp hs hplain
  refine ⟨p, ?_, fun r => ?_⟩
  · have := hall []
    rw [List.append_nil, hp] at this
    exact Except.ok.inj this
  · rw [urlFor, hbase, hall]

/-- Then every request has an address. -/
theorem urlFor_ok (r : Request) : ∃ v, c.urlFor r = .ok v := by
  obtain ⟨p, -, hall⟩ := urlFor_eq hc hu
  exact ⟨_, hall r⟩

end Address

end PaymentDesk.Config
