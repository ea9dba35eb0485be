import PaymentDesk.Proofs.Text.Unbroken
import PaymentDesk.Proofs.Url.Below
import PaymentDesk.Proofs.Url.Percent
import PaymentDesk.Proofs.Url.Reading
import PaymentDesk.Url.Percent
import PaymentDesk.Url.Reference

/-!
# URLs hold no control characters

Whatever text a URL is read from, its own text holds no control character (`visible_of_parse`, `visible_of_lead?`), and
so no line end: every part of it is encoded, made of digits, or was refused. This is what makes a URL fit to be shown in
one line.
-/

namespace PaymentDesk.Url

open Text

/-- A text without control characters. -/
def Visible (s : List Char) : Prop := ∀ c ∈ s, 0x20 ≤ c.toNat

theorem Visible.append {x y : List Char} (hx : Visible x) (hy : Visible y) : Visible (x ++ y) := fun c h =>
  (List.mem_append.mp h).elim (hx c) (hy c)

theorem Visible.cons {d : Char} {x : List Char} (hd : 0x20 ≤ d.toNat) (hx : Visible x) : Visible (d :: x) :=
  List.forall_mem_cons.mpr ⟨hd, hx⟩

theorem visible_nil : Visible [] := List.forall_mem_nil _

theorem visible_of_all {s : List Char} (h : s.all (fun c => 0x20 ≤ c.toNat) = true) : Visible s := fun c hc => by
  simpa using List.all_eq_true.mp h c hc

theorem visible_intercalate {sep : List Char} {ls : List (List Char)} (hsep : Visible sep)
    (h : ∀ l ∈ ls, Visible l) : Visible (sep.intercalate ls) := by
  intro c hc
  rcases of_mem_intercalate hc with hc | ⟨l, hl, hc⟩
  · exact hsep c hc
  · exact h l hl c hc

/-! ## Digits and encoded texts -/

theorem toNat_digitChar (n : Nat) : 0x20 ≤ (Nat.digitChar n).toNat := by
  have hsmall : ∀ n < 16, 0x20 ≤ (Nat.digitChar n).toNat := by decide
  by_cases hn : n < 16
  · exact hsmall n hn
  · have hstar : Nat.digitChar n = '*' := by
      rw [Nat.digitChar]
      repeat rw [if_neg (by omega)]
    rw [hstar]
    decide

theorem visible_toDigits {base : Nat} (hbase : 1 < base) (n : Nat) : Visible (Nat.toDigits base n) := by
  induction n using Nat.strongRecOn with
  | ind n ih =>
    rcases Nat.lt_or_ge n base with hn | hn
    · rw [Nat.toDigits_of_lt_base hn]
      exact .cons (toNat_digitChar n) visible_nil
    · rw [Nat.toDigits_of_base_le hbase hn]
      exact (ih (n / base) (Nat.div_lt_self (by omega) hbase)).append (.cons (toNat_digitChar _) visible_nil)

theorem visible_encode {keep : Char → Bool} (hkeep : ∀ c, keep c = true → 0x20 ≤ c.toNat) (s : List Char) :
    Visible (Percent.encode keep s) := by
  have hdigit : ∀ n < 16, 0x20 ≤ (Percent.upperDigit n).toNat := by decide
  intro c hc
  rcases Percent.mem_encode hc with hc | rfl | ⟨n, hn, rfl⟩
  · exact hkeep c hc
  · decide
  · exact hdigit n hn

theorem toNat_of_inOpaque {c : Char} (h : Percent.inOpaque c = true) : 0x20 ≤ c.toNat := by
  simp only [Percent.inOpaque, Bool.and_eq_true, decide_eq_true_eq] at h
  exact h.1

/-- What a part of a URL may hold as it is, is printable. -/
theorem visible_encode_without (excluded : String) (s : List Char) :
    Visible (Percent.encode (Percent.without excluded) s) := by
  refine visible_encode (fun c hc => toNat_of_inOpaque ?_) s
  rw [Percent.without, Bool.and_eq_true] at hc
  exact hc.1

/-! ## Paths -/

section Walk

variable {P : List Char → Prop} (hnil : P []) (hencode : ∀ s, P (Percent.encode Percent.inPath s))

theorem forall_enter (hencode : ∀ s, P (Percent.encode Percent.inPath s)) {above : List (List Char)}
    (h : ∀ s ∈ above, P s) (l : List Char) : ∀ s ∈ enter above l, P s := by
  rw [enter]
  split
  · exact fun s hs => h s (List.mem_of_mem_drop hs)
  split
  · exact h
  · exact List.forall_mem_cons.mpr ⟨hencode l, h⟩

include hnil hencode

/-- What holds of nothing and of encoded segments holds of all segments that a walk leads along. -/
theorem forall_walk (ls above : List (List Char)) (h : ∀ s ∈ above, P s) : ∀ s ∈ walk above ls, P s := by
  induction ls generalizing above with
  | nil =>
    rw [walk]
    exact fun s hs => h s (List.mem_reverse.mp hs)
  | cons l r ih =>
    by_cases hr : r = []
    · subst hr
      have hlast {place : List (List Char)} (hplace : ∀ s ∈ place, P s) {x : List Char} (hx : P x) :
          ∀ s ∈ (x :: place).reverse, P s :=
        fun s hs => List.forall_mem_cons.mpr ⟨hx, hplace⟩ s (List.mem_reverse.mp hs)
      rw [walk]
      split
      · exact hlast (fun s hs => h s (List.mem_of_mem_drop hs)) hnil
      split
      · exact hlast h hnil
      · exact hlast h (hencode l)
    · rw [walk_cons above l hr]
      exact ih (enter above l) (forall_enter hencode h l)

end Walk

theorem visible_walk (ls : List (List Char)) {above : List (List Char)} (h : ∀ s ∈ above, Visible s) :
    ∀ s ∈ walk above ls, Visible s :=
  forall_walk visible_nil (visible_encode_without _) ls above h

/-! ## Hosts -/

theorem Host.visible_bracketed {s : List Char} {host : Host} (h : bracketed s = .ok host) : Visible host.text := by
  have hdigits (ps : List Nat) : Visible (Ipv6.join ps) := by
    refine visible_intercalate (visible_of_all (by decide)) fun l hl => ?_
    obtain ⟨n, -, rfl⟩ := List.mem_map.mp hl
    exact visible_toDigits (by decide) n
  have htext (ps : List Nat) : Visible (Ipv6.text ps) := by
    rw [Ipv6.text]
    split
    split
    · exact hdigits ps
    · exact ((hdigits _).append (visible_of_all (by decide))).append (hdigits _)
  rw [bracketed] at h
  split at h
  · split at h
    · cases h
      exact .cons (by decide) ((htext _).append (visible_of_all (by decide)))
    · cases h
  · cases h

theorem Host.visible_parse {s : List Char} {host : Host} (h : parse s = .ok host) : Visible host.text := by
  rw [parse.eq_def] at h
  split at h
  · exact visible_bracketed h
  split at h
  · cases h
  · cases h
  · next name hne hname =>
    split at h
    · split at h
      · cases h
        refine visible_intercalate (visible_of_all (by decide)) fun l hl => ?_
        obtain ⟨n, -, rfl⟩ := List.mem_map.mp hl
        exact visible_toDigits (by decide) n
      · cases h
    · cases h
      -- a domain holds no forbidden character, and control characters are forbidden
      obtain ⟨t, -, hascii⟩ := Option.bind_eq_some_iff.mp hname
      have hallowed := (Option.filter_eq_some_iff.mp hascii).2
      intro c hc
      by_contra hlt
      have hforbidden : Domain.isForbidden c = true := by
        have : c.toNat ≤ 0x20 := by omega
        simp [Domain.isForbidden, this]
      have hany : name.any Domain.isForbidden = true := List.any_eq_true.mpr ⟨c, hc, hforbidden⟩
      rw [hany] at hallowed
      cases hallowed

theorem Host.visible_parseOpaque {s : List Char} {host : Host} (h : parseOpaque s = .ok host) : Visible host.text := by
  rw [parseOpaque.eq_def] at h
  split at h
  · exact visible_bracketed h
  · split at h
    · cases h
    · cases h
      exact visible_encode (fun _ => toNat_of_inOpaque) _

theorem visible_parseHost {special : Bool} {s : List Char} {host : Host} (h : parseHost special s = .ok host) :
    Visible host.text := by
  rw [parseHost] at h
  split at h
  · exact Host.visible_parseOpaque h
  split at h
  · cases h
  · exact Host.visible_parse h

/-! ## URLs -/

theorem visible_slashed {ls : List (List Char)} (h : ∀ l ∈ ls, Visible l) : Visible (slashed ls) := by
  intro c hc
  rw [slashed, List.mem_flatMap] at hc
  obtain ⟨l, hl, hc⟩ := hc
  have hslash : Visible ('/' :: l) := .cons (by decide) (h l hl)
  exact hslash c hc

/-- The path that a text spells from the root on. -/
theorem visible_path (special : Bool) (s : List Char) :
    Visible (Path.segments (walk [] (writtenSegments special s))).text :=
  visible_slashed (visible_walk _ (List.forall_mem_nil _))

/-- A URL all of whose parts are free of control characters. -/
structure IsVisible (u : Url) : Prop where
  scheme : Visible u.scheme
  authority : ∀ a ∈ u.authority, Visible a.text
  path : Visible u.path.text
  query : ∀ q ∈ u.query, Visible q
  fragment : ∀ f ∈ u.fragment, Visible f

theorem IsVisible.text {u : Url} (h : u.IsVisible) : Visible u.text := by
  have hguard : Visible u.pathGuard := by
    rw [pathGuard]
    split
    · exact visible_of_all (by decide)
    · exact visible_nil
  have htarget : Visible u.target := by
    refine h.path.append ?_
    split
    · next q hq => exact .cons (by decide) (h.query q hq)
    · exact visible_nil
  rw [Url.text]
  refine Visible.append (.append (.append (h.scheme.append (.cons (by decide) ?_)) hguard) htarget) ?_
  · split
    · next a ha => exact .cons (by decide) (.cons (by decide) (h.authority a ha))
    · exact visible_nil
  · split
    · next f hf => exact .cons (by decide) (h.fragment f hf)
    · exact visible_nil

/-! ## Reading URLs -/

theorem visible_of_splitScheme {s scheme r : List Char} (h : splitScheme s = some (scheme, r)) : Visible scheme := by
  obtain ⟨-, -, -, -, -, rfl⟩ := splitScheme_eq_some h
  have hascii : ∀ c, isSchemeChar c = true → c.toNat < 128 := by
    intro c hc
    have below (last : Char) (hlast : last.val.toNat < 128) (hle : c.val ≤ last.val) : c.toNat < 128 :=
      Nat.lt_of_le_of_lt (UInt32.le_iff_toNat_le.mp hle) hlast
    simp only [isSchemeChar, Bool.or_eq_true, beq_iff_eq] at hc
    rcases hc with ((hname | rfl) | rfl) | rfl
    · rcases Bool.or_eq_true_iff.mp hname with hletter | hdigit
      · rcases Bool.or_eq_true_iff.mp hletter with hupper | hlower
        · exact below 'Z' (by decide) (of_decide_eq_true hupper).2
        · exact below 'z' (by decide) (of_decide_eq_true (Bool.and_eq_true_iff.mp hlower).2)
      · exact below '9' (by decide) (of_decide_eq_true (Bool.and_eq_true_iff.mp hdigit).2)
    all_goals decide
  have hlower : ∀ n < 128, isSchemeChar (Char.ofNat n) = true → 0x20 ≤ (Char.ofNat n).toLower.toNat := by
    decide +kernel
  intro c hc
  obtain ⟨d, hd, rfl⟩ := List.mem_map.mp hc
  have hscheme := List.all_eq_true.mp List.all_takeWhile d hd
  exact Domain.forall_ascii (P := fun d => isSchemeChar d = true → 0x20 ≤ d.toLower.toNat) hlower (hascii d hscheme)
    hscheme

/-- An authority is visible, whatever it is written as. -/
theorem visible_of_parseAuthority {scheme s : List Char} {a : Authority} (h : parseAuthority scheme s = .ok a) :
    Visible a.text := by
  have huser (info : Option (List Char)) : Visible ((info.map userOf).getD []) := by
    cases info with
    | none => exact visible_nil
    | some info => exact visible_encode_without _ _
  have hpassword (info : Option (List Char)) : ∀ p ∈ info.bind passwordOf, Visible p := by
    intro p hp
    obtain ⟨info, -, hp⟩ := Option.bind_eq_some_iff.mp hp
    rw [passwordOf] at hp
    split at hp
    · cases hp
    · cases hp
    · cases hp
      exact visible_encode_without _ _
  have htext {info : Option (List Char)} {host : Host} {port : Option Nat} (hhost : Visible host.text) : Visible
      ({ user := (info.map userOf).getD [], password := info.bind passwordOf, host, port } : Authority).text := by
    rw [Authority.text]
    refine Visible.append (Visible.append ?_ hhost) ?_
    · split
      · refine Visible.append ((huser info).append ?_) (visible_of_all (by decide))
        split
        · next p hp => exact .cons (by decide) (hpassword info p hp)
        · exact visible_nil
      · exact visible_nil
    · split
      · exact .cons (by decide) (visible_toDigits (by decide) _)
      · exact visible_nil
  simp only [parseAuthority, bind, Except.bind] at h
  split at h
  · cases h
  · next host hhost =>
    split at h
    · cases h
    · split at h
      · cases h
      · split at h
        · cases h
        · cases h
          exact htext (visible_parseHost hhost)

theorem visible_part (excluded : String) (part : Option (List Char)) :
    ∀ q ∈ part.map (Percent.encode (Percent.without excluded)), Visible q := by
  intro q hq
  obtain ⟨s, -, rfl⟩ := Option.map_eq_some_iff.mp hq
  exact visible_encode_without excluded s

theorem visible_query (part : Option (List Char)) : ∀ q ∈ part.map (Percent.encode Percent.inQuery), Visible q :=
  visible_part _ part

theorem visible_specialQuery (part : Option (List Char)) :
    ∀ q ∈ part.map (Percent.encode Percent.inSpecialQuery), Visible q :=
  visible_part _ part

theorem visible_fragment (part : Option (List Char)) :
    ∀ f ∈ part.map (Percent.encode Percent.inFragment), Visible f :=
  visible_part _ part

theorem visible_of_parseSpecial {scheme s : List Char} (hscheme : Visible scheme) {u : Url}
    (h : parseSpecial scheme s = .ok u) : u.IsVisible := by
  rw [parseSpecial_eq] at h
  cases ha : parseAuthority scheme (authorityPart s) with
  | error f =>
    rw [ha] at h
    cases h
  | ok a =>
    rw [ha] at h
    cases h
    refine ⟨hscheme, ?_, visible_path _ _, visible_specialQuery _, visible_fragment _⟩
    intro b hb
    cases hb
    exact visible_of_parseAuthority ha

theorem visible_of_parseFileHost {s : List Char} {host : Host} (h : parseFileHost s = .ok host) :
    Visible host.text := by
  rw [parseFileHost] at h
  split at h
  · cases h
    exact visible_nil
  · cases hparse : Host.parse s with
    | error f =>
      rw [hparse] at h
      cases h
    | ok parsed =>
      rw [hparse] at h
      cases h
      dsimp only
      split
      · exact visible_nil
      · exact Host.visible_parse hparse

theorem visible_of_parseFile {scheme s : List Char} (hscheme : Visible scheme) {u : Url}
    (h : parseFile scheme s = .ok u) : u.IsVisible := by
  unfold parseFile at h
  simp only [bind, Except.bind] at h
  split at h
  · cases h
  · next host hhost =>
    cases h
    refine ⟨hscheme, ?_, visible_path _ _, visible_specialQuery _, visible_fragment _⟩
    intro a ha
    cases ha
    have hhost := visible_of_parseFileHost hhost
    simpa [Authority.text, Authority.hasUserInfo] using hhost

theorem visible_of_parseOther {scheme s : List Char} (hscheme : Visible scheme) {u : Url}
    (h : parseOther scheme s = .ok u) : u.IsVisible := by
  have hstructured (p : List Char) :
      Visible (if p.isEmpty then Path.segments [] else .segments (walk [] (writtenSegments false p))).text := by
    split
    · exact visible_nil
    · exact visible_path false p
  unfold parseOther at h
  simp only [bind, Except.bind] at h
  split at h
  · next rest =>
    split at h
    · cases h
    · split at h
      · cases h
      · next a ha =>
        cases h
        generalize splitTail (rest.drop (authorityText false rest).length) = tail
        refine ⟨hscheme, ?_, hstructured tail.path, visible_query tail.query, visible_fragment tail.fragment⟩
        intro b hb
        cases hb
        exact visible_of_parseAuthority ha
  · next rest _ =>
    cases h
    exact ⟨hscheme, by simp, hstructured (splitTail ('/' :: rest)).path, visible_query _, visible_fragment _⟩
  · cases h
    have hopaque : Visible (Percent.encode Percent.inOpaque (splitTail s).path) :=
      visible_encode (fun _ => toNat_of_inOpaque) _
    exact ⟨hscheme, by simp, hopaque, visible_query _, visible_fragment _⟩

theorem visible_of_parseAfterScheme {scheme s : List Char} (hscheme : Visible scheme) {u : Url}
    (h : parseAfterScheme scheme s = .ok u) : u.IsVisible := by
  rw [parseAfterScheme] at h
  split at h
  · exact visible_of_parseSpecial hscheme h
  split at h
  · exact visible_of_parseFile hscheme h
  · exact visible_of_parseOther hscheme h

/-- **A URL is visible, whatever text it is read from.** -/
theorem visible_of_parse {s : List Char} {u : Url} (h : parse s = .ok u) : u.IsVisible := by
  rw [parse] at h
  split at h
  · next scheme r hr => exact visible_of_parseAfterScheme (visible_of_splitScheme hr) h
  · cases h

/-- **So is one that a reference names.** -/
theorem visible_of_lead? {base u : Url} {s : List Char} (h : base.lead? s = some (.ok u)) : u.IsVisible := by
  obtain ⟨here, -, h⟩ := Option.bind_eq_some_iff.mp h
  obtain ⟨r, -, h⟩ := Option.bind_eq_some_iff.mp h
  simp only at h
  split at h
  · have hurl : (here.resolve r).url = .ok u := Option.some.inj h
    rw [Reference.url] at hurl
    split at hurl
    · cases hurl
    · cases hp : Url.parse (here.resolve r).text with
      | error f =>
        rw [hp] at hurl
        cases hurl
      | ok v =>
        rw [hp] at hurl
        cases hurl
        have hv := visible_of_parse hp
        exact ⟨hv.scheme, hv.authority, hv.path, hv.query, fun f hf => by cases hf⟩
  · cases h

end PaymentDesk.Url
