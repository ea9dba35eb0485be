import PaymentDesk.Dialogue

/-!
# The steps of a dialogue

`Dialogue.steps` lists what happens while a dialogue is played, in order and with how each step went. A step fails when
the sink refuses, when a line is not UTF-8, and when a reply is an error of the terminal (`Step.failure?`). Steps account
for a result when it is the failure of their last one, or no failure at all (`Accounts`).

`Dialogue.Always` says that the steps of a dialogue and what it ends with satisfy a condition, whatever lines, times and
replies it gets and wherever the terminal fails. **Every run is such a case** (`Dialogue.Always.run`). A dialogue that
only talks to the operator accounts for its result in all of them (`Dialogue.Talk.always`).
-/

namespace PaymentDesk

open Text

/-! ## Steps -/

/-- One step of a dialogue, with how it went. -/
inductive Step where
  | wrote (part : Part) (text : List Char) (result : Except Sink.Fault Unit)
  | flushed (result : Except Sink.Fault Unit)
  | read (line : Option (List UInt8))
  | noted (record : Log.Record)
  | sent (request : Request) (reply : Reply)

namespace Step

/-- The error that a step leads to, if it fails. A reply that is an error of any other kind is no failure. -/
def failure? : Step → Option Error
  | wrote p _ (.error f) => some (p.error f)
  | flushed (.error f) => some (Part.prose.error f)
  | read (some bytes) => if (Utf8.decode? bytes).isNone then some notUtf8 else none
  | sent _ (.error (.io reason)) => some (.io reason)
  | _ => none

/-- The document that a step writes out, or tries to. -/
def document? : Step → Option (List Char)
  | wrote .document text _ => some text
  | _ => none

/-- A step that asks something of the service. -/
def isSent : Step → Bool
  | sent _ _ => true
  | _ => false

end Step

/-- No step fails. -/
def Unfailing (steps : List Step) : Prop := ∀ s ∈ steps, s.failure? = none

/-- The last step fails with this error, and no step before it fails. -/
def FailsWith (err : Error) (steps : List Step) : Prop :=
  ∃ before s, steps = before ++ [s] ∧ Unfailing before ∧ s.failure? = some err

/-- The result is the failure of the last step, or no failure at all. -/
def Accounts {α : Type} (steps : List Step) : Except Error α → Prop
  | .ok _ => Unfailing steps
  | .error err => FailsWith err steps

section Accounts

variable {α β : Type} {x y : List Step} {s : Step} {r : Except Error α} {err : Error}

theorem unfailing_nil : Unfailing [] := nofun

theorem unfailing_cons : Unfailing (s :: x) ↔ s.failure? = none ∧ Unfailing x := List.forall_mem_cons

theorem unfailing_append : Unfailing (x ++ y) ↔ Unfailing x ∧ Unfailing y := List.forall_mem_append

theorem failsWith_singleton (h : s.failure? = some err) : FailsWith err [s] := ⟨[], s, rfl, unfailing_nil, h⟩

theorem FailsWith.not_unfailing (h : FailsWith err x) : ¬ Unfailing x := by
  obtain ⟨before, s, rfl, -, hs⟩ := h
  intro hx
  rw [hx s (by simp)] at hs
  cases hs

theorem FailsWith.unique {err' : Error} (h : FailsWith err x) (h' : FailsWith err' x) : err = err' := by
  obtain ⟨before, s, rfl, -, hs⟩ := h
  obtain ⟨before', s', heq, -, hs'⟩ := h'
  obtain ⟨-, heq⟩ := List.append_inj' heq rfl
  cases heq
  rw [hs] at hs'
  exact Option.some.inj hs'

theorem FailsWith.prepend (hx : Unfailing x) (h : FailsWith err y) : FailsWith err (x ++ y) := by
  obtain ⟨before, s, rfl, hbefore, hs⟩ := h
  exact ⟨x ++ before, s, (List.append_assoc ..).symm, unfailing_append.mpr ⟨hx, hbefore⟩, hs⟩

theorem Accounts.prepend (hx : Unfailing x) (h : Accounts y r) : Accounts (x ++ y) r := by
  cases r with
  | ok a => exact unfailing_append.mpr ⟨hx, h⟩
  | error err => exact FailsWith.prepend hx h

theorem Accounts.cons (hs : s.failure? = none) (h : Accounts x r) : Accounts (s :: x) r :=
  h.prepend (x := [s]) (unfailing_cons.mpr ⟨hs, unfailing_nil⟩)

theorem Accounts.eq_error_iff (h : Accounts x r) : r = .error err ↔ FailsWith err x := by
  cases r with
  | ok a => exact iff_of_false nofun fun hx => hx.not_unfailing h
  | error err' => exact ⟨fun he => by cases he; exact h, fun hx => by rw [hx.unique h]⟩

theorem Accounts.eq_ok_iff (h : Accounts x r) : (∃ a, r = .ok a) ↔ Unfailing x := by
  cases r with
  | ok a => exact iff_of_true ⟨a, rfl⟩ h
  | error err => exact iff_of_false nofun (FailsWith.not_unfailing h)

end Accounts

namespace Dialogue

variable {α β σ : Type} {e : Setting σ}

/-- What happens while a dialogue is played. -/
def steps (e : Setting σ) : Dialogue α → World σ → List Step
  | done _, _ => []
  | fail _, _ => []
  | write p text next, w =>
    match w.sink.write (Utf8.encode text) with
    | (.ok (), s) => .wrote p text (.ok ()) :: next.steps e { w with sink := s }
    | (.error f, _) => [.wrote p text (.error f)]
  | flush next, w =>
    match w.sink.flush with
    | (.ok (), s) => .flushed (.ok ()) :: next.steps e { w with sink := s }
    | (.error f, _) => [.flushed (.error f)]
  | read next, w =>
    match w.input with
    | [] => .read none :: (next none).steps e w
    | bytes :: rest =>
      .read (some bytes) :: match Utf8.decode? bytes with
        | some text => (next (some text)).steps e { w with input := rest }
        | none => []
  | note r next, w => .noted r :: next.steps e { w with log := w.log ++ [r] }
  | time next, w => (next (e.clock w.ticks)).steps e { w with ticks := w.ticks + 1 }
  | send r next, w =>
    match e.transport.send r w.transport with
    | (reply, records, s) => .sent r reply :: (next reply).steps e { w with log := w.log ++ records, transport := s }

/-- A dialogue in two parts takes the steps of the first, and then those of the second if there is a result to go on
with. -/
theorem steps_bind (d : Dialogue α) (f : α → Dialogue β) (w : World σ) :
    (d >>= f).steps e w = d.steps e w ++ match d.run e w with
      | (.ok a, w') => (f a).steps e w'
      | (.error _, _) => [] := by
  show (d.bind f).steps e w = _
  induction d generalizing w with
  | done a => rfl
  | fail err => rfl
  | write p t next ih =>
    simp only [bind, steps, run]
    rcases w.sink.write (Utf8.encode t) with ⟨⟨⟩ | ⟨⟩, s⟩
    · rfl
    · exact congrArg _ (ih _)
  | flush next ih =>
    simp only [bind, steps, run]
    rcases w.sink.flush with ⟨⟨⟩ | ⟨⟩, s⟩
    · rfl
    · exact congrArg _ (ih _)
  | read next ih =>
    simp only [bind, steps, run]
    cases w.input with
    | nil => exact congrArg _ (ih _ _)
    | cons bytes rest =>
      simp only
      cases Utf8.decode? bytes with
      | none => rfl
      | some l => exact congrArg _ (ih _ _)
  | note r next ih => exact congrArg _ (ih _)
  | time next ih => exact ih _ _
  | send r next ih => exact congrArg _ (ih _ _)

/-! ## Whatever happens -/

/-- The steps and the end of a dialogue satisfy a condition, whatever happens. -/
def Always : Dialogue α → (List Step → Except Error α → Prop) → Prop
  | done a, P => P [] (.ok a)
  | fail err, P => P [] (.error err)
  | write p t next, P => (∀ f, P [.wrote p t (.error f)] (.error (p.error f))) ∧
    next.Always fun x r => P (.wrote p t (.ok ()) :: x) r
  | flush next, P => (∀ f, P [.flushed (.error f)] (.error (Part.prose.error f))) ∧
    next.Always fun x r => P (.flushed (.ok ()) :: x) r
  | read next, P => ((next none).Always fun x r => P (.read none :: x) r) ∧
    (∀ bytes, Utf8.decode? bytes = none → P [.read (some bytes)] (.error notUtf8)) ∧
    ∀ bytes l, Utf8.decode? bytes = some l → (next (some l)).Always fun x r => P (.read (some bytes) :: x) r
  | note record next, P => next.Always fun x r => P (.noted record :: x) r
  | time next, P => ∀ t, (next t).Always P
  | send q next, P => ∀ reply, (next reply).Always fun x r => P (.sent q reply :: x) r

variable {P P' : List Step → Except Error α → Prop} {Q : List Step → Except Error β → Prop} {d : Dialogue α}

theorem Always.mono (hd : d.Always P) (h : ∀ x r, P x r → P' x r) : d.Always P' := by
  induction d generalizing P P' with
  | done a => exact h _ _ hd
  | fail err => exact h _ _ hd
  | write p t next ih => exact ⟨fun f => h _ _ (hd.1 f), ih hd.2 fun x => h (_ :: x)⟩
  | flush next ih => exact ⟨fun f => h _ _ (hd.1 f), ih hd.2 fun x => h (_ :: x)⟩
  | read next ih =>
    exact ⟨ih none hd.1 fun x => h (_ :: x), fun bytes hb => h _ _ (hd.2.1 bytes hb),
      fun bytes l hl => ih (some l) (hd.2.2 bytes l hl) fun x => h (_ :: x)⟩
  | note record next ih => exact ih hd fun x => h (_ :: x)
  | time next ih => exact fun t => ih t (hd t) h
  | send q next ih => exact fun reply => ih reply (hd reply) fun x => h (_ :: x)

theorem Always.and (hd : d.Always P) (hd' : d.Always P') : d.Always fun x r => P x r ∧ P' x r := by
  induction d generalizing P P' with
  | done a => exact ⟨hd, hd'⟩
  | fail err => exact ⟨hd, hd'⟩
  | write p t next ih => exact ⟨fun f => ⟨hd.1 f, hd'.1 f⟩, ih hd.2 hd'.2⟩
  | flush next ih => exact ⟨fun f => ⟨hd.1 f, hd'.1 f⟩, ih hd.2 hd'.2⟩
  | read next ih =>
    exact ⟨ih none hd.1 hd'.1, fun bytes hb => ⟨hd.2.1 bytes hb, hd'.2.1 bytes hb⟩,
      fun bytes l hl => ih (some l) (hd.2.2 bytes l hl) (hd'.2.2 bytes l hl)⟩
  | note record next ih => exact ih hd hd'
  | time next ih => exact fun t => ih t (hd t) (hd' t)
  | send q next ih => exact fun reply => ih reply (hd reply) (hd' reply)

/-- A dialogue that goes on takes the steps of both parts, unless the first one fails. -/
theorem Always.bind {f : α → Dialogue β} (hd : d.Always P) (broken : ∀ x err, P x (.error err) → Q x (.error err))
    (hf : ∀ x a, P x (.ok a) → (f a).Always fun y r => Q (x ++ y) r) : (d >>= f).Always Q := by
  show (d.bind f).Always Q
  induction d generalizing P Q with
  | done a => exact hf [] a hd
  | fail err => exact broken [] err hd
  | write p t next ih =>
    exact ⟨fun f => broken _ _ (hd.1 f), ih hd.2 (fun x => broken (_ :: x)) fun x => hf (_ :: x)⟩
  | flush next ih =>
    exact ⟨fun f => broken _ _ (hd.1 f), ih hd.2 (fun x => broken (_ :: x)) fun x => hf (_ :: x)⟩
  | read next ih =>
    exact ⟨ih none hd.1 (fun x => broken (_ :: x)) fun x => hf (_ :: x), fun bytes hb => broken _ _ (hd.2.1 bytes hb),
      fun bytes l hl => ih (some l) (hd.2.2 bytes l hl) (fun x => broken (_ :: x)) fun x => hf (_ :: x)⟩
  | note record next ih => exact ih hd (fun x => broken (_ :: x)) fun x => hf (_ :: x)
  | time next ih => exact fun t => ih t (hd t) broken hf
  | send q next ih => exact fun reply => ih reply (hd reply) (fun x => broken (_ :: x)) fun x => hf (_ :: x)

/-- **Every run is one of the cases.** -/
theorem Always.run (hd : d.Always P) (e : Setting σ) (w : World σ) : P (d.steps e w) (d.run e w).1 := by
  induction d generalizing P w with
  | done a => exact hd
  | fail err => exact hd
  | write p t next ih =>
    simp only [steps, Dialogue.run]
    rcases w.sink.write (Utf8.encode t) with ⟨f | ⟨⟩, s⟩
    · exact hd.1 f
    · exact ih hd.2 { w with sink := s }
  | flush next ih =>
    simp only [steps, Dialogue.run]
    rcases w.sink.flush with ⟨f | ⟨⟩, s⟩
    · exact hd.1 f
    · exact ih hd.2 { w with sink := s }
  | read next ih =>
    simp only [steps, Dialogue.run]
    cases w.input with
    | nil => exact ih none hd.1 w
    | cons bytes rest =>
      simp only
      cases hl : Utf8.decode? bytes with
      | none => exact hd.2.1 bytes hl
      | some l => exact ih (some l) (hd.2.2 bytes l hl) { w with input := rest }
  | note record next ih => exact ih hd { w with log := w.log ++ [record] }
  | time next ih => exact ih _ (hd _) { w with ticks := w.ticks + 1 }
  | send q next ih => exact ih _ (hd (e.transport.send q w.transport).1) _

/-! ## Talking to the operator -/

/-- A dialogue that writes ordinary texts, reads lines and notes records, but asks nothing of the service, writes out no
document and gives no error of its own; and its result satisfies a condition. -/
def Talk (R : α → Prop) : Dialogue α → Prop
  | done a => R a
  | fail _ => False
  | write p _ next => p = .prose ∧ next.Talk R
  | flush next => next.Talk R
  | read next => ∀ line, (next line).Talk R
  | note _ next => next.Talk R
  | time _ => False
  | send _ _ => False

variable {R : α → Prop} {S : β → Prop}

theorem Talk.bind {f : α → Dialogue β} (hd : d.Talk R) (hf : ∀ a, R a → (f a).Talk S) : (d >>= f).Talk S := by
  show (d.bind f).Talk S
  induction d with
  | done a => exact hf a hd
  | write p t next ih => exact ⟨hd.1, ih hd.2⟩
  | flush next ih => exact ih hd
  | read next ih => exact fun line => ih line (hd line)
  | note r next ih => exact ih hd
  | _ => exact absurd hd id

/-- The steps of talking: the result is accounted for, and no step concerns a document or the service. -/
structure Talked (R : α → Prop) (x : List Step) (r : Except Error α) : Prop where
  accounts : Accounts x r
  document : ∀ s ∈ x, s.document? = none
  sent : ∀ s ∈ x, s.isSent = false
  result : ∀ a, r = .ok a → R a

theorem Talked.cons {s : Step} {x : List Step} {r : Except Error α} (h : Talked R x r) (hs : s.failure? = none)
    (hd : s.document? = none) (hq : s.isSent = false) : Talked R (s :: x) r where
  accounts := h.accounts.cons hs
  document := List.forall_mem_cons.mpr ⟨hd, h.document⟩
  sent := List.forall_mem_cons.mpr ⟨hq, h.sent⟩
  result := h.result

theorem Talked.last {s : Step} {err : Error} (hs : s.failure? = some err) (hd : s.document? = none)
    (hq : s.isSent = false) : Talked R [s] (.error err) where
  accounts := failsWith_singleton hs
  document := List.forall_mem_singleton.mpr hd
  sent := List.forall_mem_singleton.mpr hq
  result := nofun

/-- **Talking accounts for its result.** -/
theorem Talk.always (hd : d.Talk R) : d.Always (Talked R) := by
  induction d with
  | done a => exact ⟨unfailing_nil, nofun, nofun, fun b hb => by cases hb; exact hd⟩
  | write p t next ih =>
    obtain ⟨rfl, hd⟩ := hd
    exact ⟨fun f => .last rfl rfl rfl, (ih hd).mono fun x r h => h.cons rfl rfl rfl⟩
  | flush next ih => exact ⟨fun f => .last rfl rfl rfl, (ih hd).mono fun x r h => h.cons rfl rfl rfl⟩
  | read next ih =>
    refine ⟨(ih none (hd none)).mono fun x r h => h.cons rfl rfl rfl, fun bytes hb => ?_, fun bytes l hl => ?_⟩
    · exact .last (by simp [Step.failure?, hb]) rfl rfl
    · exact (ih (some l) (hd _)).mono fun x r h => h.cons (by simp [Step.failure?, hl]) rfl rfl
  | note record next ih => exact (ih hd).mono fun x r h => h.cons rfl rfl rfl
  | _ => exact absurd hd id

end Dialogue

end PaymentDesk
