import PaymentDesk.Proofs.Text.Unbroken
import PaymentDesk.Proofs.Url.Form
import PaymentDesk.Proofs.Url.Visible
import PaymentDesk.Proofs.Wire.Arrivals

/-!
# Messages about requests

The wording of an error quotes what others wrote: the URL of a request or of a redirection, the body of a reply, the
path that a request names. A URL holds no control characters, redirections included (`visible_of_exchanged`), a body is
brought into one line, and the rest is words and numbers. **So an error of a request is told in one line**, whatever the
server answers, if the path that it names is in one line (`unbroken_send`), and so is what is wrong with a document
(`unbroken_json`). And none of what the wire records is a warning (`level_of_send`).
-/

namespace PaymentDesk

open Text

theorem Url.unbroken_of_visible {s : List Char} (h : Url.Visible s) : Unbroken s := by
  refine unbroken_of_forall ?_
  rintro c hc rfl
  exact absurd (h '\n' hc) (by decide)

/-! ## Addresses -/

namespace Url

theorem Form.visible_encodeText (s : List Char) : Visible (encodeText s) := by
  have hplain : ∀ c, isPlain c = true → 0x20 ≤ c.toNat := by
    intro c hc
    by_contra hlt
    have hall : ∀ n < 0x20, isPlain (Char.ofNat n) = false := by decide
    have hnot := hall c.toNat (by omega)
    rw [Char.ofNat_toNat, hc] at hnot
    cases hnot
  have hdigit : ∀ n < 16, 0x20 ≤ (Percent.upperDigit n).toNat := by decide
  intro c hc
  rcases mem_encodeText hc with rfl | hc | rfl | ⟨n, hn, rfl⟩
  · decide
  · exact hplain c hc
  · decide
  · exact hdigit n hn

theorem Form.visible_encode (ps : List (List Char × List Char)) : Visible (encode ps) := by
  refine visible_intercalate (visible_of_all (by decide)) fun l hl => ?_
  obtain ⟨p, -, rfl⟩ := List.mem_map.mp hl
  exact (visible_encodeText p.1).append (.cons (by decide) (visible_encodeText p.2))

theorem IsVisible.appendQuery {u : Url} (h : u.IsVisible) (ps : List (List Char × List Char)) :
    (u.appendQuery ps).IsVisible := by
  have hadded : ∀ q ∈ some (Form.encode ps), Visible q := by
    intro q hq
    cases hq
    exact Form.visible_encode ps
  rw [Url.appendQuery]
  split
  · exact h
  split
  · exact ⟨h.scheme, h.authority, h.path, hadded, h.fragment⟩
  · exact ⟨h.scheme, h.authority, h.path, hadded, h.fragment⟩
  · next s _ hs =>
    refine ⟨h.scheme, h.authority, h.path, ?_, h.fragment⟩
    intro q hq
    cases hq
    exact (h.query s hs).append (.cons (by decide) (Form.visible_encode ps))

theorem IsVisible.of_takeUserInfo? {u bare : Url} {user : List Char} {password : Option (List Char)}
    (h : u.IsVisible) (ht : u.takeUserInfo? = some (user, password, bare)) : bare.IsVisible := by
  simp only [takeUserInfo?] at ht
  split at ht
  · cases ht
  · next a ha =>
    split at ht
    · cases ht
    split at ht
    · cases ht
    · cases ht
      refine ⟨h.scheme, ?_, h.path, h.query, h.fragment⟩
      intro b hb
      cases hb
      have htext := h.authority a ha
      intro c hc
      refine htext c ?_
      rw [Authority.text, List.append_assoc]
      exact List.mem_append_right _ hc

end Url

/-- The address of a request is visible. -/
theorem Config.visible_of_outgoing {c : Config} {r : Request} {o : Outgoing} (h : c.outgoing r = .ok o) :
    o.url.IsVisible := by
  rw [outgoing] at h
  cases hu : c.urlFor r with
  | error e =>
    rw [hu] at h
    cases h
  | ok u =>
    rw [hu] at h
    have hvisible : u.IsVisible := by
      rw [urlFor] at hu
      split at hu
      · cases hu
      · next v hv =>
        cases hu
        exact (Url.visible_of_parse hv).appendQuery r.query
    simp only [Except.map, Except.ok.injEq] at h
    cases ht : u.takeUserInfo? with
    | none =>
      rw [ht] at h
      subst h
      exact hvisible
    | some t =>
      obtain ⟨user, password, bare⟩ := t
      rw [ht] at h
      subst h
      exact hvisible.of_takeUserInfo? ht

/-- So is the one that a reply leads to. -/
theorem visible_of_redirection? {u target : Url} {status : Nat} {headers : List Header}
    (h : redirection? u status headers = some (.ok target)) : target.IsVisible := by
  rw [redirection?] at h
  split at h
  · split at h
    · exact Url.visible_of_lead? h
    · cases h
  · cases h

/-! ## Exchanges -/

namespace WireFault

theorem unbroken_message {f : WireFault} (h : f.url.IsVisible) : Unbroken f.error.message := by
  have htext : Unbroken f.url.text := Url.unbroken_of_visible h.text
  cases f with
  | address u => exact .append (by decide) ((Unbroken.append (by decide) htext).append (by decide))
  | connection u => exact .append (by decide) ((Unbroken.append (by decide) htext).append (by decide))
  | redirections u => exact .append (by decide) ((Unbroken.append (by decide) htext).append (by decide))

end WireFault

namespace Wire

variable {w : Wire}

theorem visible_of_onward {o o' : Outgoing} {n : Network} (h : onward o n = some o') : o'.url.IsVisible := by
  obtain ⟨status, headers, body, target, -, htarget, rfl⟩ := of_onward h
  have hvisible := visible_of_redirection? htarget
  rw [Outgoing.redirect]
  split
  · exact hvisible
  · exact hvisible

theorem url_of_settle {u : Url} {answer : Answer} {f : WireFault} (h : settle u answer = .error f) : f.url = u := by
  cases answer with
  | reply status headers body =>
    rw [settle] at h
    split at h
    · cases h
      rfl
    · cases h
  | drop =>
    cases h
    rfl
  | stall =>
    cases h
    rfl

/-- **Wherever an exchange is led, a fault is about a visible URL.** -/
theorem visible_of_exchanged {left : Nat} {o : Outgoing} {n : Network} {result : Except WireFault (Nat × List UInt8)}
    {records : List Log.Record} (h : w.Exchanged left o n result records) (ho : o.url.IsVisible) :
    ∀ f, result = .error f → f.url.IsVisible := by
  induction h with
  | astray own recorded =>
    intro f h
    cases h
    rwa [own]
  | settled visits stays =>
    intro f h
    rwa [url_of_settle h]
  | exhausted visits leaves =>
    intro f h
    cases h
    exact ho
  | followed visits leaves rest ih => exact ih (visible_of_onward leaves)

end Wire

/-! ## Replies -/

theorem Url.Fault.unbroken_message (f : Fault) : Unbroken f.message := by
  cases f <;> decide

/-- **An error of a request is told in one line.** -/
theorem Wire.unbroken_send (w : Wire) {r : Request} (hr : Unbroken r.path) (n : Network) {err : Error}
    (h : (w.send r n).1 = .error err) : Unbroken err.message := by
  cases ho : w.config.outgoing r with
  | error e =>
    rw [send, ho] at h
    cases h
    simp only [Config.outgoing, Config.urlFor] at ho
    split at ho
    · next f _ =>
      cases ho
      have hpath : Unbroken ("invalid request path '".toList ++ r.path) := .append (by decide) hr
      exact .append (by decide) ((hpath.append (by decide)).append f.unbroken_message)
    · cases ho
  | ok o =>
    rw [send, ho] at h
    simp only at h
    rcases he : w.exchange 10 o n with ⟨f | ⟨status, body⟩, records, n'⟩
    · rw [he] at h
      cases h
      have hfault : f.url.IsVisible :=
        visible_of_exchanged (w.exchanged 10 o n) (Config.visible_of_outgoing ho) f (congrArg Prod.fst he)
      exact WireFault.unbroken_message hfault
    · rw [he] at h
      simp only [conclude] at h
      split at h
      · cases h
      · cases h
        refine .append (.append (by decide) (Decimal.unbroken_ofNat status)) ?_
        split
        · exact unbroken_nil
        · exact .append (by decide) (unbroken_oneLine _)

/-! ## Records -/

theorem Log.debug_ne_warn : Level.debug ≠ .warn := by decide

theorem Wire.level_of_attempt (u : Url) : ∀ record ∈ attempt u, record.level ≠ .warn := by
  have htrace : Log.Level.trace ≠ .warn := by decide
  rw [attempt]
  exact List.forall_mem_cons.mpr ⟨Log.debug_ne_warn, List.forall_mem_singleton.mpr htrace⟩

/-- What is recorded of an exchange is no warning. -/
theorem Wire.level_of_exchanged {w : Wire} {left : Nat} {o : Outgoing} {n : Network}
    {result : Except WireFault (Nat × List UInt8)} {records : List Log.Record}
    (h : w.Exchanged left o n result records) : ∀ record ∈ records, record.level ≠ .warn := by
  induction h with
  | astray own recorded => exact fun record hr => level_of_attempt _ record (recorded hr)
  | settled visits stays => exact level_of_attempt _
  | exhausted visits leaves => exact level_of_attempt _
  | followed visits leaves rest ih => exact List.forall_mem_append.mpr ⟨level_of_attempt _, ih⟩

theorem Wire.level_of_send (w : Wire) (r : Request) (n : Network) :
    ∀ record ∈ (w.send r n).2.1, record.level ≠ .warn := by
  cases ho : w.config.outgoing r with
  | error e =>
    rw [send, ho]
    exact List.forall_mem_nil _
  | ok o =>
    have hexchange := level_of_exchanged (w.exchanged 10 o n)
    rcases he : w.exchange 10 o n with ⟨f | ⟨status, body⟩, records, n'⟩
    · rw [he] at hexchange
      rw [send_of_fault ho he]
      exact List.forall_mem_cons.mpr ⟨Log.debug_ne_warn, hexchange⟩
    · rw [he] at hexchange
      rw [send_of_reply ho he]
      refine List.forall_mem_cons.mpr ⟨Log.debug_ne_warn, ?_⟩
      exact List.forall_mem_append.mpr ⟨hexchange, List.forall_mem_singleton.mpr Log.debug_ne_warn⟩

/-! ## Documents -/

theorem Json.Cause.unbroken_message (c : Cause) : Unbroken c.message := by
  cases c <;> decide

/-- **So is what is wrong with a document.** -/
theorem Response.unbroken_json {response : Response} {err : Error} (h : response.json = .error err) :
    Unbroken err.message := by
  rw [json] at h
  cases hp : Json.parse response.body with
  | ok d =>
    rw [hp] at h
    cases h
  | error f =>
    rw [hp] at h
    cases h
    have hline := f.cause.unbroken_message.append (y := " at line ".toList) (by decide)
    have hplace := (hline.append (Decimal.unbroken_ofNat f.line)).append (y := " column ".toList) (by decide)
    exact .append (by decide) (hplace.append (Decimal.unbroken_ofNat f.column))

end PaymentDesk
