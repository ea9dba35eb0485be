import PaymentDesk.Proofs.Dialogue.Input

/-!
# Requests paid for with lines

A line that is read earns a request, and a request that is sent spends one. Steps are paid for (`Paid`) if at no moment
more was spent than was earned, given some credit to begin with. **Paid steps stay so when others follow that make do
with what is left** (`Paid.append`).

`Dialogue.Frugal` says so of a dialogue, whatever happens, with what is left at its end, and bounds the number of its
steps; such dialogues are put together by `Frugal.bind`. The steps of a run are what its transport (`transport_run`) and
its input (`Consumes.exists_append`) went through.
-/

namespace PaymentDesk

open Text

namespace Step

/-- A line is taken off the input. -/
def takesLine : Step → Bool
  | read (some _) => true
  | _ => false

/-- An ordinary text is shown, or the sink refuses it. -/
def shows (text : List Char) : Step → Bool
  | wrote .prose t _ => t == text
  | _ => false

end Step

/-- At every moment, at most as many requests were sent as lines were taken, and `credit` more. -/
def Paid (credit : Nat) (x : List Step) : Prop :=
  ∀ before, before <+: x → before.countP Step.isSent ≤ credit + before.countP Step.takesLine

section Paid

variable {x y : List Step} {s : Step} {credit left : Nat}

theorem paid_nil (credit : Nat) : Paid credit [] := by
  intro before h
  rw [List.prefix_nil.mp h]
  exact Nat.zero_le _

theorem paid_singleton (h : [s].countP Step.isSent ≤ credit + [s].countP Step.takesLine) : Paid credit [s] := by
  intro before hbefore
  cases before with
  | nil => exact Nat.zero_le _
  | cons s' before =>
    obtain ⟨rfl, hnil⟩ := List.cons_prefix_cons.mp hbefore
    rw [List.prefix_nil.mp hnil]
    exact h

/-- **Steps are paid for one part after the other.** -/
theorem Paid.append (hx : Paid credit x)
    (hleft : x.countP Step.isSent + left ≤ credit + x.countP Step.takesLine) (hy : Paid left y) :
    Paid credit (x ++ y) := by
  intro before hbefore
  obtain ⟨after, h⟩ := hbefore
  rcases List.append_eq_append_iff.mp h with ⟨z, hz, -⟩ | ⟨z, rfl, hz⟩
  · exact hx before ⟨z, hz.symm⟩
  · have hmore := hy z ⟨after, hz.symm⟩
    rw [List.countP_append, List.countP_append]
    omega

/-- A request is sent only after a line was taken. -/
theorem Paid.exists_line {q : Request} {reply : Reply} (h : Paid 0 (x ++ .sent q reply :: y)) :
    ∃ bytes, .read (some bytes) ∈ x := by
  have hcount := h (x ++ [.sent q reply]) ⟨y, by rw [List.append_assoc]; rfl⟩
  have hsent : [Step.sent q reply].countP Step.isSent = 1 := rfl
  have hline : [Step.sent q reply].countP Step.takesLine = 0 := rfl
  rw [List.countP_append, List.countP_append, hsent, hline] at hcount
  have hpos : 0 < x.countP Step.takesLine := by omega
  obtain ⟨s, hs, hline⟩ := List.countP_pos_iff.mp hpos
  cases s with
  | read line =>
    cases line with
    | none => cases hline
    | some bytes => exact ⟨bytes, hs⟩
  | _ => cases hline

end Paid

/-! ## Dialogues -/

/-- At most so many steps, none of which shows a certain text, that are paid for from a credit; `left` of it is left. -/
structure Spent {α : Type} (text : List Char) (length credit : Nat) (left : α → Nat) (x : List Step)
    (r : Except Error α) : Prop where
  length_le : x.length ≤ length
  quiet : ∀ s ∈ x, s.shows text = false
  paid : Paid credit x
  left_le : ∀ a, r = .ok a → x.countP Step.isSent + left a ≤ credit + x.countP Step.takesLine

namespace Dialogue

variable {α β σ : Type} {text : List Char} {m n credit : Nat} {left : α → Nat} {d : Dialogue α}

/-- Whatever happens, the steps of a dialogue are few, quiet and paid for. -/
def Frugal (text : List Char) (length credit : Nat) (left : α → Nat) (d : Dialogue α) : Prop :=
  d.Always (Spent text length credit left)

theorem Frugal.bind {f : α → Dialogue β} {left' : β → Nat} (hd : d.Frugal text m credit left)
    (hf : ∀ a, (f a).Frugal text n (left a) left') : (d >>= f).Frugal text (m + n) credit left' := by
  refine Always.bind hd (fun x err h => ?_) fun x a h => (hf a).mono fun y r h' => ?_
  · exact ⟨Nat.le_add_right_of_le h.length_le, h.quiet, h.paid, nofun⟩
  · have hleft := h.left_le a rfl
    refine ⟨?_, List.forall_mem_append.mpr ⟨h.quiet, h'.quiet⟩, h.paid.append hleft h'.paid, fun b hb => ?_⟩
    · rw [List.length_append]
      exact Nat.add_le_add h.length_le h'.length_le
    · have hleft' := h'.left_le b hb
      rw [List.countP_append, List.countP_append]
      omega

theorem Frugal.mono {left' : α → Nat} (hd : d.Frugal text m credit left) (hn : m ≤ n) (hleft : ∀ a, left' a ≤ left a) :
    d.Frugal text n credit left' := by
  refine Always.mono hd fun x r h => ⟨Nat.le_trans h.length_le hn, h.quiet, h.paid, fun a ha => ?_⟩
  have hle := h.left_le a ha
  have hle' := hleft a
  omega

/-! ### Single steps -/

theorem frugal_pure {a : α} (h : left a ≤ credit) : (pure a : Dialogue α).Frugal text n credit left := by
  refine ⟨Nat.zero_le n, List.forall_mem_nil _, paid_nil credit, fun b hb => ?_⟩
  cases hb
  simpa using h

theorem frugal_fail (err : Error) : (fail err : Dialogue α).Frugal text n credit left :=
  ⟨Nat.zero_le n, List.forall_mem_nil _, paid_nil credit, nofun⟩

/-- One step that is quiet and paid for. -/
theorem spent_singleton {s : Step} {r : Except Error α} (hquiet : s.shows text = false)
    (hpaid : [s].countP Step.isSent ≤ credit + [s].countP Step.takesLine)
    (hleft : ∀ a, r = .ok a → [s].countP Step.isSent + left a ≤ credit + [s].countP Step.takesLine) :
    Spent text 1 credit left [s] r :=
  ⟨Nat.le_refl 1, List.forall_mem_singleton.mpr hquiet, paid_singleton hpaid, hleft⟩

theorem frugal_say {t : List Char} (h : t ≠ text) : (say t).Frugal text 1 credit fun _ => credit := by
  have hquiet (result : Except Sink.Fault Unit) : (Step.wrote .prose t result).shows text = false := by
    simpa [Step.shows] using h
  constructor
  · exact fun f => spent_singleton (hquiet _) (Nat.zero_le _) nofun
  · exact spent_singleton (hquiet _) (Nat.zero_le _) fun _ _ => Nat.le_of_eq (Nat.zero_add credit)

theorem frugal_flush : (flush (pure ())).Frugal text 1 credit fun _ => credit := by
  constructor
  · exact fun f => spent_singleton rfl (Nat.zero_le _) nofun
  · exact spent_singleton rfl (Nat.zero_le _) fun _ _ => Nat.le_of_eq (Nat.zero_add credit)

theorem frugal_present (document : List Char) (h : ['\n'] ≠ text) :
    (present document).Frugal text 3 credit fun _ => credit := by
  have hwrite : (write .document document (pure ())).Frugal text 1 credit fun _ => credit := by
    constructor
    · exact fun f => spent_singleton rfl (Nat.zero_le _) nofun
    · exact spent_singleton rfl (Nat.zero_le _) fun _ _ => Nat.le_of_eq (Nat.zero_add credit)
  exact hwrite.bind (n := 2) fun _ => (frugal_say h).bind (n := 1) fun _ => frugal_flush

theorem frugal_log (level : Log.Level) (source : Log.Source) (t : List Char) :
    (log level source t).Frugal text 1 credit fun _ => credit :=
  spent_singleton rfl (Nat.zero_le _) fun _ _ => Nat.le_of_eq (Nat.zero_add credit)

/-- A line adds to the credit. -/
theorem frugal_line : line.Frugal text 1 credit fun l => if l.isSome then credit + 1 else credit := by
  refine ⟨?missing, fun bytes _ => ?noText, fun bytes l _ => ?given⟩
  case missing =>
    refine spent_singleton rfl (Nat.zero_le _) fun a ha => ?_
    cases ha
    exact Nat.le_of_eq (Nat.zero_add credit)
  case noText => exact spent_singleton rfl (Nat.zero_le _) nofun
  case given =>
    refine spent_singleton rfl (Nat.zero_le _) fun a ha => ?_
    cases ha
    exact Nat.le_of_eq (Nat.zero_add (credit + 1))

/-- A request takes from the credit. -/
theorem frugal_request (r : Request) : (request r).Frugal text 1 (credit + 1) fun _ => credit :=
  fun _ => spent_singleton rfl (Nat.succ_le_succ (Nat.zero_le credit)) fun _ _ => Nat.le_of_eq (Nat.add_comm 1 credit)

end Dialogue

/-! ## What the steps lead to -/

/-- The state of the transport after a step. -/
def Step.advance {σ : Type} (t : Transport σ) (s : σ) : Step → σ
  | sent q _ => (t.send q s).2.2
  | _ => s

/-- **The transport goes through the requests in the steps**, and no others. -/
theorem Dialogue.transport_run {α σ : Type} {e : Setting σ} (d : Dialogue α) (w : World σ) :
    (d.run e w).2.transport = (d.steps e w).foldl (Step.advance e.transport) w.transport := by
  induction d generalizing w with
  | done a => rfl
  | fail err => rfl
  | write p t next ih =>
    simp only [steps, run]
    rcases w.sink.write (Utf8.encode t) with ⟨f | ⟨⟩, s⟩
    · rfl
    · exact ih { w with sink := s }
  | flush next ih =>
    simp only [steps, run]
    rcases w.sink.flush with ⟨f | ⟨⟩, s⟩
    · rfl
    · exact ih { w with sink := s }
  | read next ih =>
    simp only [steps, run]
    cases w.input with
    | nil => exact ih none w
    | cons bytes rest =>
      simp only
      cases Utf8.decode? bytes with
      | none => rfl
      | some l => exact ih (some l) { w with input := rest }
  | note r next ih => exact ih { w with log := w.log ++ [r] }
  | time next ih => exact ih _ { w with ticks := w.ticks + 1 }
  | send q next ih =>
    rcases hs : e.transport.send q w.transport with ⟨reply, records, s⟩
    simp only [steps, run, hs, List.foldl_cons, Step.advance]
    exact ih reply { w with log := w.log ++ records, transport := s }

section Consumes

variable {input left : List (List UInt8)} {x y : List Step}

/-- The lines taken are those that are gone from the input. -/
theorem Consumes.exists_append (h : Consumes input x left) :
    ∃ taken, input = taken ++ left ∧ taken.length = x.countP Step.takesLine := by
  induction h with
  | done _ => exact ⟨[], rfl, rfl⟩
  | @line bytes _ _ _ _ ih =>
    obtain ⟨taken, rfl, hlength⟩ := ih
    refine ⟨bytes :: taken, rfl, ?_⟩
    rw [List.length_cons, hlength, List.countP_cons_of_pos rfl]
  | missing _ ih =>
    obtain ⟨taken, htaken, hlength⟩ := ih
    exact ⟨taken, htaken, by rw [hlength, List.countP_cons_of_neg (by decide)]⟩
  | @other s _ _ _ hs _ ih =>
    obtain ⟨taken, htaken, hlength⟩ := ih
    refine ⟨taken, htaken, ?_⟩
    have hline : s.takesLine = false := by
      cases s with
      | read line => cases hs
      | _ => rfl
    rw [hlength, List.countP_cons_of_neg (by simp [hline])]

theorem Consumes.split (h : Consumes input (x ++ y) left) :
    ∃ middle, Consumes input x middle ∧ Consumes middle y left := by
  induction x generalizing input with
  | nil => exact ⟨input, .done input, h⟩
  | cons s x ih =>
    cases h with
    | line rest =>
      obtain ⟨middle, hx, hy⟩ := ih rest
      exact ⟨middle, .line hx, hy⟩
    | missing rest =>
      obtain ⟨middle, hx, hy⟩ := ih rest
      exact ⟨middle, .missing hx, hy⟩
    | other hs rest =>
      obtain ⟨middle, hx, hy⟩ := ih rest
      exact ⟨middle, .other hs hx, hy⟩

end Consumes

end PaymentDesk
