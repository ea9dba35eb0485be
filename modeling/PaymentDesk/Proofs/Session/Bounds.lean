import PaymentDesk.Proofs.Dialogue.Spending
import PaymentDesk.Proofs.Session.Composition

/-!
# What a session costs

A round shows the menu once, takes at most 35 steps, and sends no request that a line of its own does not pay for
(`bounded_round`): the choice pays for the one request of most operations, and the identifier for the second one of a
cancellation. Each round but the last takes a line off the input.

**So the input bounds the session** (`run_bounded`): its steps, its menus, and at every moment its requests.
-/

namespace PaymentDesk

open Text

/-! ## Operations -/

namespace Operation

/-- The number of requests that an operation may send. -/
def cost : Operation → Nat
  | cancel _ => 2
  | _ => 1

variable {text : List Char}

theorem frugal_fetch (r : Request) : (fetch r).Frugal text 1 1 fun _ => 0 := by
  refine (Dialogue.frugal_request r).bind (n := 0) fun reply => ?_
  cases reply with
  | error err => exact Dialogue.frugal_pure (Nat.le_refl 0)
  | ok response => exact Dialogue.frugal_pure (Nat.le_refl 0)

/-- **An operation sends no more requests than it may.** -/
theorem frugal_perform (v : Variant) (op : Operation) : (op.perform v).Frugal text 3 op.cost fun _ => 0 := by
  have fetched (r : Request) : (fetch r).Frugal text 3 1 fun _ => 0 :=
    (frugal_fetch r).mono (by decide) fun _ => Nat.le_refl 0
  cases op with
  | list => exact fetched _
  | get id => exact fetched _
  | create => exact fun second => fetched (creationRequest v.referenceStyle second)
  | createAt second => exact fetched _
  | search c => exact fetched _
  | cancel id =>
    refine (Dialogue.frugal_request _).bind (n := 2) fun reply => ?_
    cases reply with
    | error err => exact Dialogue.frugal_pure (Nat.zero_le 1)
    | ok response => exact (Dialogue.frugal_log _ _ _).bind (n := 1) fun _ => frugal_fetch _
  | refund reference =>
    refine (Dialogue.frugal_request _).bind (n := 2) fun reply => ?_
    cases reply with
    | error err => exact Dialogue.frugal_pure (Nat.le_refl 0)
    | ok response => exact (Dialogue.frugal_log _ _ _).bind (n := 1) fun _ => Dialogue.frugal_pure (Nat.le_refl 0)

end Operation

namespace Session

/-! ## Texts that are no menu -/

section Rounds

variable {v : Variant} {credit : Nat}

theorem prompt_ne_menuText (label : List Char) : label ++ ": ".toList ≠ menuText v := by
  have hprompt : (label ++ ": ".toList).getLast? = some ' ' := by simp
  have hmenu : (menuText v).getLast? = some '\n' := by cases v <;> decide +kernel
  intro h
  rw [h, hmenu] at hprompt
  cases hprompt

theorem lineEnd_ne_menuText : ['\n'] ≠ menuText v := by cases v <;> decide +kernel

theorem diagnostic_ne_menuText (err : Error) : diagnostic err ≠ menuText v := by
  have herror : (diagnostic err).head? = some 'E' := rfl
  have hmenu : (menuText v).head? = some '\n' := by cases v <;> decide +kernel
  intro h
  rw [h, hmenu] at herror
  cases herror

/-! ## Questions -/

/-- An answer adds to the credit. -/
theorem frugal_ask (label : List Char) :
    (ask label).Frugal (menuText v) 4 credit fun answer => if answer.isSome then credit + 1 else credit := by
  refine (Dialogue.frugal_say (prompt_ne_menuText label)).bind (n := 3) fun _ => ?_
  refine Dialogue.frugal_flush.bind (n := 2) fun _ => ?_
  refine Dialogue.frugal_line.bind (n := 1) fun answer => ?_
  cases answer with
  | none => exact (Dialogue.frugal_say lineEnd_ne_menuText).bind (n := 0) fun _ => Dialogue.frugal_pure (Nat.le_refl _)
  | some l => exact Dialogue.frugal_pure (Nat.le_refl (credit + 1))

/-- An identifier adds to the credit. -/
theorem frugal_require (label : List Char) :
    (require label).Frugal (menuText v) 4 credit fun r => if r.isOk then credit + 1 else credit := by
  refine (frugal_ask label).bind (n := 0) fun answer => Dialogue.frugal_pure ?_
  cases answer with
  | none => exact Nat.le_refl credit
  | some s =>
    show (if _ then credit + 1 else credit) ≤ credit + 1
    split
    · exact Nat.le_refl _
    · exact Nat.le_succ credit

theorem frugal_optional (label : List Char) : (optional label).Frugal (menuText v) 4 credit fun _ => credit := by
  refine (frugal_ask _).bind (n := 0) fun answer => ?_
  rcases answer with _ | _ | ⟨c, s⟩
  · exact Dialogue.frugal_pure (Nat.le_refl credit)
  · exact Dialogue.frugal_pure (Nat.le_succ credit)
  · exact Dialogue.frugal_pure (Nat.le_succ credit)

theorem frugal_askCriteria : askCriteria.Frugal (menuText v) 24 credit fun _ => credit := by
  refine (frugal_optional _).bind (n := 20) fun answer => ?_
  cases amount answer with
  | error err => exact Dialogue.frugal_pure (Nat.le_refl credit)
  | ok n =>
    refine (frugal_optional _).bind (n := 16) fun _ => ?_
    refine (frugal_optional _).bind (n := 12) fun _ => ?_
    refine (frugal_optional _).bind (n := 8) fun _ => ?_
    refine (frugal_optional _).bind (n := 4) fun _ => ?_
    refine (frugal_optional _).bind (n := 0) fun _ => ?_
    exact Dialogue.frugal_pure (Nat.le_refl credit)

/-- The requests that an answer may lead to. -/
def costOf : Except Error (Option Operation) → Nat
  | .ok (some op) => op.cost
  | _ => 0

/-- **The lines of the questions pay for what is ordered.** -/
theorem frugal_order (v : Variant) (a : Action) : (order v a).Frugal (menuText v) 24 1 costOf := by
  have required (label : List Char) {op : List Char → Operation} (hop : ∀ s, (op s).cost ≤ 2) :
      (require label >>= fun r => pure (r.map (some ∘ op)) : Dialogue _).Frugal (menuText v) 24 1 costOf := by
    have h : (require label >>= fun r => pure (r.map (some ∘ op)) : Dialogue _).Frugal (menuText v) 4 1 costOf := by
      refine (frugal_require label).bind (n := 0) fun r => Dialogue.frugal_pure ?_
      cases r with
      | error err => exact Nat.zero_le _
      | ok s => exact hop s
    exact h.mono (by decide) fun _ => Nat.le_refl _
  cases a with
  | list => exact Dialogue.frugal_pure (Nat.le_refl 1)
  | create => exact Dialogue.frugal_pure (Nat.le_refl 1)
  | quit => exact Dialogue.frugal_pure (Nat.zero_le 1)
  | get => exact required _ fun _ => Nat.le_succ 1
  | cancel => exact required _ fun _ => Nat.le_refl 2
  | refund => exact required _ fun _ => Nat.le_succ 1
  | search =>
    refine frugal_askCriteria.bind (n := 0) fun r => Dialogue.frugal_pure ?_
    cases r with
    | error err => exact Nat.zero_le 1
    | ok c => exact Nat.le_refl 1

/-! ## Rounds -/

theorem frugal_action (v : Variant) (a : Action) : (perform v a).Frugal (menuText v) 27 1 fun _ => 0 := by
  refine (frugal_order v a).bind (n := 3) fun answer => ?_
  rcases answer with err | _ | op
  · exact Dialogue.frugal_pure (Nat.le_refl 0)
  · exact Dialogue.frugal_pure (Nat.le_refl 0)
  · exact Operation.frugal_perform v op

theorem frugal_report (v : Variant) (a : Action) (o : Operation.Outcome) :
    (report a o).Frugal (menuText v) 3 0 fun _ => 0 := by
  rcases o with err | _ | d
  · cases err with
    | io reason => exact Dialogue.frugal_fail _
    | _ => exact (Dialogue.frugal_log _ _ _).bind (n := 2) fun _ =>
        (Dialogue.frugal_say (diagnostic_ne_menuText _)).mono (by decide) fun _ => Nat.le_refl 0
  · exact Dialogue.frugal_pure (Nat.le_refl 0)
  · exact Dialogue.frugal_present _ lineEnd_ne_menuText

/-- What follows a choice is paid for with the line of it. -/
theorem frugal_follow (v : Variant) (answer : Option (List Char)) :
    (follow v answer).Frugal (menuText v) 30 (if answer.isSome then 0 + 1 else 0) fun _ => 0 := by
  cases answer with
  | none => exact Dialogue.frugal_pure (Nat.le_refl 0)
  | some c =>
    show Dialogue.Frugal (menuText v) 30 1 (fun _ => 0) (follow v (some c))
    rw [follow]
    cases v.actionFor c with
    | none => exact (Dialogue.frugal_log _ _ _).bind (n := 29) fun _ => Dialogue.frugal_pure (Nat.zero_le 1)
    | some a =>
      have acts : (perform v a >>= fun o => report a o >>= fun _ => pure Turn.again).Frugal (menuText v) 30 1
          fun _ => 0 := by
        refine (frugal_action v a).bind (n := 3) fun o => ?_
        exact (frugal_report v a o).bind (n := 0) fun _ => Dialogue.frugal_pure (Nat.le_refl 0)
      cases a with
      | quit => exact Dialogue.frugal_pure (Nat.zero_le 1)
      | _ => exact acts

/-- The steps of so many rounds at most. -/
structure Bounded (v : Variant) (rounds : Nat) (x : List Step) : Prop where
  length_le : x.length ≤ 35 * rounds
  menus_le : x.countP (Step.shows (menuText v)) ≤ rounds
  paid : Paid 0 x

theorem Bounded.append {m n : Nat} {x y : List Step} (hx : Bounded v m x) (hy : Bounded v n y) :
    Bounded v (m + n) (x ++ y) where
  length_le := by
    have hlength := hx.length_le
    have hlength' := hy.length_le
    rw [List.length_append]
    omega
  menus_le := by
    rw [List.countP_append]
    exact Nat.add_le_add hx.menus_le hy.menus_le
  paid := hx.paid.append (hx.paid x (List.prefix_refl x)) hy.paid

theorem Bounded.mono {m n : Nat} {x : List Step} (hx : Bounded v m x) (h : m ≤ n) : Bounded v n x :=
  ⟨Nat.le_trans hx.length_le (Nat.mul_le_mul_left 35 h), Nat.le_trans hx.menus_le h, hx.paid⟩

/-- **The steps of a round are bounded.** -/
theorem bounded_round (v : Variant) : (round v).Always fun x _ => Bounded v 1 x := by
  have rest : (ask "Choice".toList >>= follow v).Frugal (menuText v) 34 0 fun _ => 0 :=
    (frugal_ask _).bind (n := 30) (frugal_follow v)
  have menu {result : Except Sink.Fault Unit} : Bounded v 1 [.wrote .prose (menuText v) result] := by
    refine ⟨Nat.le_add_left 1 34, ?_, paid_singleton (Nat.zero_le _)⟩
    rw [List.countP_singleton]
    split <;> decide
  rw [round_eq]
  refine ⟨fun f => menu, Dialogue.Always.mono rest fun x r h => ?_⟩
  have hquiet : x.countP (Step.shows (menuText v)) = 0 := List.countP_eq_zero.mpr fun s hs => by simp [h.quiet s hs]
  refine ⟨Nat.succ_le_succ h.length_le, ?_, menu.paid.append (Nat.le_refl 0) h.paid⟩
  rw [List.countP_cons, hquiet]
  split <;> decide

end Rounds

/-! ## Sessions -/

section Sessions

variable {σ : Type}

/-- **The input bounds the steps of a session.** -/
theorem bounded_steps (e : Setting σ) (v : Variant) (w : World σ) : Bounded v (w.input.length + 1) (steps e v w) := by
  induction w using Session.run.induct e v with
  | case1 w err w' h =>
    rw [steps_of_error h]
    exact ((bounded_round v).run e w).mono (Nat.le_add_left 1 _)
  | case2 w w' h =>
    rw [steps_of_over h]
    exact ((bounded_round v).run e w).mono (Nat.le_add_left 1 _)
  | case3 w w' h ih =>
    have hline := length_input_of_round h
    rw [steps_of_again h]
    exact (((bounded_round v).run e w).append ih).mono (by omega)

theorem transport_run (e : Setting σ) (v : Variant) (w : World σ) :
    (run e v w).2.transport = (steps e v w).foldl (Step.advance e.transport) w.transport := by
  refine of_rounds (P := fun w x w' => w'.transport = x.foldl (Step.advance e.transport) w.transport)
    (fun w => (round v).transport_run w) (fun h h' => ?_) w
  rw [h', h, List.foldl_append]

/-- **A session ends, and its input bounds it.** It takes 35 steps at most for each line, and 35 more; it shows the menu
at most once for each line, and once more. At every moment, a part of the input has been read that has at least as many
lines as requests have been sent, and the requests of the steps are all that the transport ever gets. So nothing is sent
on an empty input, nor before a line is read. -/
theorem run_bounded (e : Setting σ) (v : Variant) (w : World σ) :
    (steps e v w).length ≤ 35 * (w.input.length + 1) ∧
    (steps e v w).countP (Step.shows (menuText v)) ≤ w.input.length + 1 ∧
    (∀ before, before <+: steps e v w → ∃ lines left, w.input = lines ++ left ∧ Consumes w.input before left ∧
      lines.length = before.countP Step.takesLine ∧ before.countP Step.isSent ≤ lines.length) ∧
    (run e v w).2.transport = (steps e v w).foldl (Step.advance e.transport) w.transport ∧
    (w.input = [] → ∀ s ∈ steps e v w, s.isSent = false) ∧
    ∀ before q reply after, steps e v w = before ++ .sent q reply :: after → ∃ bytes, .read (some bytes) ∈ before := by
  have hbounded := bounded_steps e v w
  have hconsumes := consumes_steps e v w
  refine ⟨hbounded.length_le, hbounded.menus_le, fun before hbefore => ?_, transport_run e v w, fun hempty s hs => ?_,
    fun before q reply after hsteps => ?_⟩
  · have hpaid := hbounded.paid before hbefore
    obtain ⟨after, hafter⟩ := hbefore
    rw [← hafter] at hconsumes
    obtain ⟨left, hread, -⟩ := hconsumes.split
    obtain ⟨lines, hlines, hlength⟩ := hread.exists_append
    exact ⟨lines, left, hlines, hread, hlength, by omega⟩
  · cases s with
    | sent q reply =>
      obtain ⟨before, after, hsteps⟩ := List.append_of_mem hs
      obtain ⟨bytes, hbytes⟩ := (hsteps ▸ hbounded.paid).exists_line
      rw [hempty] at hconsumes
      exact absurd (hsteps ▸ List.mem_append_left _ hbytes) (hconsumes.line_notMem bytes)
    | _ => rfl
  · exact (hsteps ▸ hbounded.paid).exists_line

/-- A cancellation sends two requests, and then the input ends: no line is left that has not paid for one. -/
theorem run_bounded_cancel :
    let e : Setting Recording := ⟨Recording.transport, fun _ => 0⟩
    let w : World Recording := ({ transport := {} } : World Recording).reading (Utf8.encode "3\np1".toList)
    w.input.length = 2 ∧ (steps e .current w).countP Step.isSent = 2 ∧
      ∃ lines left, w.input = lines ++ left ∧ (steps e .current w).countP Step.isSent ≤ lines.length := by
  intro e w
  have hinput : w.input.length = 2 := by decide +kernel
  have hsent : (steps e .current w).countP Step.isSent = 2 := by decide +kernel
  obtain ⟨lines, left, hlines, -, -, hle⟩ := (run_bounded e .current w).2.2.1 _ (List.prefix_refl _)
  exact ⟨hinput, hsent, lines, left, hlines, hle⟩

end Sessions

end Session

end PaymentDesk
