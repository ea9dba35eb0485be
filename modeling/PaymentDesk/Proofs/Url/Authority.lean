import PaymentDesk.Proofs.Url.Domain

/-!
# Authorities with a control character at the end

A special URL whose authority ends in a control character or a space cannot be read (`not_control_of_parseAuthority`).
Such a character ends the host or the port. In a port it is no digit; in a host neither percent decoding nor UTF-8 takes
it for a part of anything else, and no domain may end in it.
-/

namespace PaymentDesk.Url

open Text

/-! ## Percent encoding -/

/-- A character that begins no encoded byte stands for itself. -/
theorem Percent.decode_cons {d : Char} {r : List Char}
    (h : ∀ a b r', d = '%' → r = a :: b :: r' → Hexadecimal.digit? a = none ∨ Hexadecimal.digit? b = none) :
    Percent.decode (d :: r) = Utf8.encodeChar d ++ Percent.decode r := by
  rw [Percent.decode.eq_def]
  split
  · next heq => cases heq
  · next a b r' heq =>
    obtain ⟨rfl, rfl⟩ := List.cons.inj heq
    rcases h a b r' rfl rfl with ha | hb
    · rw [ha]
      rfl
    · rw [hb]
      cases Hexadecimal.digit? a <;> rfl
  · next heq =>
    obtain ⟨rfl, rfl⟩ := List.cons.inj heq
    rfl

/-- What is no digit is not part of an encoded byte. -/
theorem Percent.decode_concat {c : Char} (hc : Hexadecimal.digit? c = none) (s : List Char) :
    Percent.decode (s ++ [c]) = Percent.decode s ++ Utf8.encodeChar c := by
  fun_induction Percent.decode s with
  | case1 => simp [Percent.decode.eq_def]
  | case2 a b r m n hm hn ih => simp [Percent.decode, hm, hn, ih]
  | case3 a b r h ih =>
    rw [List.cons_append, Percent.decode_cons, ih]
    · rfl
    · intro a' b' r' _ heq
      cases heq
      cases ha : Hexadecimal.digit? a with
      | none => exact Or.inl rfl
      | some m => exact Or.inr (Option.eq_none_iff_forall_ne_some.mpr fun n hn => h m n ha hn)
  | case4 d r h ih =>
    rw [List.cons_append, Percent.decode_cons, ih, List.append_assoc]
    intro a b r' hd heq
    -- Two characters follow the percent sign only now, so that the second of them is the appended one.
    rcases r with _ | ⟨a', _ | ⟨b', r⟩⟩
    · cases heq
    · cases heq
      exact Or.inr hc
    · exact (h a' b' r hd rfl).elim

/-! ## Hosts -/

theorem isForbidden_of_control {c : Char} (hc : isControlOrSpace c = true) : Domain.isForbidden c = true := by
  have : c.toNat ≤ 0x20 := by simpa [isControlOrSpace] using hc
  simp [Domain.isForbidden, this]

/-- A control character is no digit, and none of the marks of an authority. -/
theorem of_control {c : Char} (hc : isControlOrSpace c = true) :
    c ≠ ']' ∧ c ≠ '@' ∧ c ≠ ':' ∧ Hexadecimal.digit? c = none ∧ Decimal.digit? c = none := by
  refine Domain.forall_ascii (P := fun d => isControlOrSpace d = true →
    d ≠ ']' ∧ d ≠ '@' ∧ d ≠ ':' ∧ Hexadecimal.digit? d = none ∧ Decimal.digit? d = none) ?_
    (Domain.ascii_of_isForbidden (isForbidden_of_control hc)) hc
  decide +kernel

/-- A host does not end in a control character. -/
theorem Host.parse_concat {c : Char} (hc : isControlOrSpace c = true) (s : List Char) :
    ∃ f, Host.parse (s ++ [c]) = .error f := by
  obtain ⟨hb, -, -, hx, -⟩ := of_control hc
  have hf := isForbidden_of_control hc
  have ha := Domain.ascii_of_isForbidden hf
  rw [Host.parse.eq_def]
  split
  · next r heq =>
    have hl : r.getLast? ≠ some ']' := by
      intro hl
      have := congrArg List.getLast? heq
      rw [List.getLast?_concat, List.getLast?_cons, hl] at this
      exact hb (Option.some.inj this)
    rw [bracketed, if_neg (by simpa using hl)]
    exact ⟨_, rfl⟩
  · have hn : (Utf8.decode? (Percent.decode (s ++ [c]))).bind Domain.toAscii? = none := by
      rw [Percent.decode_concat hx, Option.bind_eq_none_iff]
      intro t ht
      obtain ⟨p, rfl⟩ := Utf8.eq_concat_of_encode ha (Utf8.decode?_eq_some_iff.mp ht).symm
      exact Domain.toAscii?_concat hf p
    rw [hn]
    exact ⟨_, rfl⟩

/-! ## Authorities -/

/-- What follows the user ends like the whole authority. -/
theorem splitUserInfo_concat {c : Char} (hc : c ≠ '@') (s : List Char) :
    ∃ p, (splitUserInfo (s ++ [c])).2 = p ++ [c] := by
  simp only [splitUserInfo]
  split
  · exact ⟨s, rfl⟩
  · exact ⟨(s.reverse.takeWhile (· != '@')).reverse, by simp [hc]⟩

/-- The text of a host and the text of a port, put together again. -/
theorem splitPort_append : ∀ (s : List Char) (inside : Bool), (splitPort inside s).1 ++ (splitPort inside s).2 = s
  | [], _ => rfl
  | c :: r, inside => by
    rw [splitPort]
    split
    · rfl
    · rw [List.cons_append, splitPort_append r]

theorem head_splitPort : ∀ (s : List Char) (inside : Bool), ∀ c ∈ (splitPort inside s).2.head?, c = ':'
  | d :: r, inside, c, h => by
    rw [splitPort] at h
    split at h
    · next hd =>
      rw [← hd.1]
      exact (Option.some.inj h).symm
    · exact head_splitPort r _ c h

/-- The characters of a number are digits. -/
theorem digit_of_readFrom {bound n : Nat} : ∀ {l : List Char} {acc : Nat}, Decimal.readFrom bound acc l = .ok n →
    ∀ c ∈ l, Decimal.digit? c ≠ none
  | d :: r, acc, h, c, hc => by
    rw [Decimal.readFrom] at h
    split at h
    · cases h
    · next m hm =>
      split at h
      · rcases List.mem_cons.mp hc with rfl | hc
        · rw [hm]
          exact Option.some_ne_none m
        · exact digit_of_readFrom h c hc
      · cases h

/-- A port does not end in a control character. -/
theorem parsePort_concat {c : Char} (hc : isControlOrSpace c = true) (scheme : List Char) (d : Char) (s : List Char) :
    parsePort scheme (d :: (s ++ [c])) = .error .port := by
  rw [parsePort, List.drop_one, List.tail_cons]
  split
  · next h => simp at h
  · split
    · next n hn =>
      obtain ⟨-, -, -, -, hd⟩ := of_control hc
      exact absurd hd (digit_of_readFrom hn c (by simp))
    · rfl

/-- An authority can be read only if its host and its port can. -/
theorem of_parseAuthority {scheme s : List Char} {a : Authority} (h : parseAuthority scheme s = .ok a) :
    (∃ host, parseHost (isSpecial scheme) (splitPort false (splitUserInfo s).2).1 = .ok host) ∧
      ∃ port, parsePort scheme (splitPort false (splitUserInfo s).2).2 = .ok port := by
  simp only [parseAuthority, bind, Except.bind] at h
  split at h
  · cases h
  · next host hhost =>
    split at h
    · cases h
    · split at h
      · cases h
      · next port hport => exact ⟨⟨host, hhost⟩, port, hport⟩

/-- **The authority of a special URL does not end in a control character.** -/
theorem not_control_of_parseAuthority {scheme s : List Char} {a : Authority} (hs : isSpecial scheme = true)
    (h : parseAuthority scheme s = .ok a) : ∀ c ∈ s.getLast?, isControlOrSpace c = false := by
  intro c hc
  by_contra hctrl
  rw [Bool.not_eq_false] at hctrl
  obtain ⟨-, hat, hcolon, -, -⟩ := of_control hctrl
  obtain ⟨s, rfl⟩ := List.getLast?_eq_some_iff.mp hc
  obtain ⟨⟨host, hhost⟩, port, hport⟩ := of_parseAuthority h
  -- The host and the port make up what follows the user, and one of them ends in the character.
  obtain ⟨p, hp⟩ := splitUserInfo_concat hat s
  have happ := splitPort_append (splitUserInfo (s ++ [c])).2 false
  have hhead := head_splitPort (splitUserInfo (s ++ [c])).2 false
  generalize (splitPort false (splitUserInfo (s ++ [c])).2).1 = hostText at *
  generalize (splitPort false (splitUserInfo (s ++ [c])).2).2 = portText at *
  rw [hp] at happ
  rcases List.eq_nil_or_concat portText with rfl | ⟨q, e, rfl⟩
  · rw [List.append_nil] at happ
    rw [happ, hs, parseHost, if_neg (by decide), if_neg (by simp)] at hhost
    obtain ⟨f, hf⟩ := Host.parse_concat hctrl p
    rw [hf] at hhost
    cases hhost
  · rw [List.concat_eq_append, ← List.append_assoc] at happ
    obtain ⟨-, he⟩ := List.append_inj' happ rfl
    rw [List.concat_eq_append, List.singleton_inj.mp he] at hport hhead
    cases q with
    | nil => exact hcolon (hhead c rfl)
    | cons d q =>
      rw [List.cons_append, parsePort_concat hctrl] at hport
      cases hport

/-- Control characters behind an authority spoil it. -/
theorem parseAuthority_append {scheme : List Char} (hs : isSpecial scheme = true) (s : List Char) {z : List Char}
    (hz : ∀ c ∈ z, isControlOrSpace c = true) (hne : z ≠ []) : ∃ f, parseAuthority scheme (s ++ z) = .error f := by
  cases h : parseAuthority scheme (s ++ z) with
  | error f => exact ⟨f, rfl⟩
  | ok a =>
    have hlast : (s ++ z).getLast? = some (z.getLast hne) := by
      rw [List.getLast?_append, List.getLast?_eq_some_getLast hne]
      rfl
    have := not_control_of_parseAuthority hs h _ hlast
    rw [hz _ (List.getLast_mem hne)] at this
    cases this

end PaymentDesk.Url
