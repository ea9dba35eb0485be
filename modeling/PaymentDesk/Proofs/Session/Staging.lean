import PaymentDesk.Proofs.Dialogue.Silent
import PaymentDesk.Proofs.Session.Interview
import PaymentDesk.Proofs.Session.Loop

/-!
# Sessions are staged

Over a terminal that does not fail, a session is what its plan says: the operations are those of the plan, performed in
order, and the output is the transcript of what comes of them. No reply, however malformed, changes which lines are read
or what is asked next.
-/

namespace PaymentDesk.Session

open Text

variable {σ : Type} {e : Setting σ} {v : Variant} {w : World σ} {ls : List (List Char)}

/-! ## One round -/

/-- The world after the menu and the question for a choice. -/
def opened (v : Variant) (ls : List (List Char)) (w : World σ) : World σ :=
  asked ["Choice".toList] ls (w.shown (menuText v) 0)

theorem Sound.opened {l : List Char} {r : List (List Char)} (h : Sound w (l :: r)) : Sound (opened v (l :: r) w) r :=
  (h.shown (menuText v) 0).asked ["Choice".toList]

theorem run_round (h : Sound w ls) : (round v).run e w = (follow v (answer ls 0)).run e (opened v ls w) := by
  rw [round_eq, Dialogue.run_bind, Dialogue.run_say h.sink]
  simp only
  rw [Dialogue.run_bind, run_ask (h.shown _ _)]
  rfl

/-- An action whose answers are refused comes to the error of the refusal. -/
theorem run_perform_refused {a : Action} {i : Interview} {err : Error} (h : Sound w ls)
    (hi : interview v ls a = some i) (ho : i.order = .error err) :
    (perform v a).run e w = (.ok (.error err), asked i.labels ls w) := by
  rw [perform, Dialogue.run_bind, run_order h hi, ho]
  rfl

/-- An action whose answers make an order is the operation that was ordered. -/
theorem run_perform_ordered {a : Action} {i : Interview} {op : Operation} (h : Sound w ls)
    (hi : interview v ls a = some i) (ho : i.order = .ok op) :
    (perform v a).run e w = (op.perform v).run e (asked i.labels ls w) := by
  rw [perform, Dialogue.run_bind, run_order h hi, ho]
  rfl

/-- What is recorded of an action: that it failed, if it did. -/
def complaints (a : Action) : Operation.Outcome → List Log.Record
  | .error err => [⟨.warn, .session, a.label ++ " failed: ".toList ++ err.message⟩]
  | .ok _ => []

/-- What came of an action is shown, unless it is an error of the terminal. -/
theorem run_report (a : Action) {o : Operation.Outcome} (h : w.sink.Boundless) (ho : NoTerminal o) :
    ∃ n, (report a o).run e w = (.ok (), { w.shown (exhibit o) n with log := w.log ++ complaints a o }) := by
  cases o with
  | ok shown =>
    cases shown with
    | none =>
      refine ⟨0, ?_⟩
      rw [exhibit_nothing, report, complaints, List.append_nil, World.shown, Sink.after_nil]
      rfl
    | some d =>
      refine ⟨1, ?_⟩
      rw [exhibit_document, report, Dialogue.run_present h, complaints, List.append_nil]
      rfl
  | error err =>
    refine ⟨0, ?_⟩
    cases err with
    | io reason => exact absurd rfl (ho reason)
    | _ =>
      simp only [report, Dialogue.log, Dialogue.say, bind, Dialogue.bind, Dialogue.run]
      rw [Sink.write_boundless h]
      rfl

theorem follow_of_actionFor {c : List Char} {a : Action} (ha : v.actionFor c = some a) (hq : a ≠ .quit) :
    follow v (some c) = perform v a >>= fun o => report a o >>= fun _ => pure .again := by
  simp only [follow, ha]

/-- The world after a round: some lines are taken, some text is shown, and the log, the clock and the transport are
where they are. -/
def passed (text : List Char) (n : Nat) (left : List (List Char)) (log : List Log.Record) (ticks : Nat) (s : σ)
    (w : World σ) : World σ :=
  { w.shown text n with input := left.map Utf8.encode, log := w.log ++ log, ticks := ticks, transport := s }

theorem Sound.passed (h : Sound w ls) (text : List Char) (n : Nat) (left : List (List Char)) (log : List Log.Record)
    (ticks : Nat) (s : σ) : Sound (passed text n left log ticks s w) left := ⟨rfl, h.sink⟩

theorem passed_passed (text text' : List Char) (n n' : Nat) (left left' : List (List Char))
    (log log' : List Log.Record) (ticks ticks' : Nat) (s s' : σ) :
    passed text' n' left' log' ticks' s' (passed text n left log ticks s w) =
      passed (text ++ text') (n + n') left' (log ++ log') ticks' s' w := by
  simp [passed, World.shown]

/-- A choice that names nothing is noted. -/
theorem round_ignore {l : List Char} {r : List (List Char)} (h : Sound w (l :: r))
    (hl : v.actionFor (trim l) = none) : ∃ log n, (round v).run e w =
      (.ok .again, passed (opening v (l :: r)) n r log w.ticks w.transport w) := by
  refine ⟨[⟨.debug, .session, "ignoring unrecognised choice ".toList ++ quoted (trim l)⟩], 1, ?_⟩
  rw [run_round h, show answer (l :: r) 0 = some (trim l) from rfl]
  simp only [follow, hl]
  simp [Dialogue.log, bind, Dialogue.bind, Dialogue.run, pure, passed, opened, asked, opening, prompts, World.shown]

section Action

variable {l : List Char} {r : List (List Char)} {a : Action} {i : Interview} (h : Sound w (l :: r))
  (ha : v.actionFor (trim l) = some a) (hi : interview v r a = some i)
include h ha hi

/-- A round about an action: what the action comes to is shown. -/
theorem round_action {o : Operation.Outcome} (ho : NoTerminal o) {log : List Log.Record} {ticks : Nat} {s : σ}
    (hp : (perform v a).run e (opened v (l :: r) w) = (.ok o,
      { asked i.labels r (opened v (l :: r) w) with log := w.log ++ log, ticks := ticks, transport := s })) :
    ∃ n, (round v).run e w = (.ok .again,
      passed (opening v (l :: r) ++ prompts i.labels r ++ exhibit o) n (r.drop i.labels.length)
        (log ++ complaints a o) ticks s w) := by
  have hq : a ≠ .quit := by rintro rfl; cases hi
  obtain ⟨n, hr⟩ := run_report (e := e) (w := { asked i.labels r (opened v (l :: r) w) with
    log := w.log ++ log, ticks := ticks, transport := s }) a (h.opened.asked i.labels).sink ho
  refine ⟨1 + i.labels.length + n, ?_⟩
  rw [run_round h, show answer (l :: r) 0 = some (trim l) from rfl, follow_of_actionFor ha hq, Dialogue.run_bind, hp]
  simp only
  rw [Dialogue.run_bind, hr]
  simp [passed, opened, asked, opening, prompts, World.shown]

/-- A round with a refused answer. -/
theorem round_refuse {err : Error} (ho : i.order = .error err) (herr : NoTerminal (.error err : Operation.Outcome)) :
    ∃ n, (round v).run e w = (.ok .again,
      passed (opening v (l :: r) ++ prompts i.labels r ++ exhibit (.error err)) n (r.drop i.labels.length)
        (complaints a (.error err)) w.ticks w.transport w) := by
  have hp : (perform v a).run e (opened v (l :: r) w) = (.ok (.error err),
      { asked i.labels r (opened v (l :: r) w) with
        log := w.log ++ [], ticks := w.ticks, transport := w.transport }) := by
    rw [run_perform_refused h.opened hi ho, List.append_nil]
    rfl
  obtain ⟨n, hr⟩ := round_action h ha hi herr hp
  exact ⟨n, hr⟩

end Action

/-! ## Refusals -/

theorem noTerminal_identifier (label : List Char) : ∀ o : Option (List Char), NoTerminal (identifier label o)
  | none, _, h => by cases h
  | some [], _, h => by cases h
  | some (c :: s), _, h => by
    simp only [identifier] at h
    split at h <;> cases h

theorem noTerminal_amount : ∀ o : Option (List Char), NoTerminal (amount o)
  | none, _, h => by cases h
  | some s, _, h => by
    simp only [amount] at h
    split at h <;> cases h

/-- A refusal is no error of the terminal. -/
theorem noTerminal_of_order {a : Action} {i : Interview} {err : Error} (hi : interview v ls a = some i)
    (ho : i.order = .error err) : NoTerminal (.error err : Operation.Outcome) := by
  have identified : ∀ (label : List Char) (op : List Char → Operation), (identify label op ls).order = .error err →
      NoTerminal (.error err : Operation.Outcome) := by
    intro label op h reason hr
    simp only [identify] at h
    cases ho' : identifier label (answer ls 0) with
    | ok id => rw [ho'] at h; cases h
    | error err' =>
      rw [ho'] at h
      cases h
      cases hr
      exact noTerminal_identifier _ _ _ ho'
  cases a with
  | quit => cases hi
  | list => cases hi; cases ho
  | create => cases hi; cases ho
  | get => cases hi; exact identified _ _ ho
  | cancel => cases hi; exact identified _ _ ho
  | refund => cases hi; exact identified _ _ ho
  | search =>
    simp only [interview, Option.some.injEq] at hi
    subst hi
    intro reason hr
    cases ho' : amount (given ls 0) with
    | ok n => rw [ho'] at ho; cases ho
    | error err' =>
      rw [ho'] at ho
      cases ho
      cases hr
      exact noTerminal_amount _ _ ho'

/-! ## Whole sessions -/

/-- The round that ends a session. -/
theorem round_over_of_nil (h : Sound w []) : ∃ n, (round v).run e w =
    (.ok .over, passed (opening v []) n [] [] w.ticks w.transport w) := by
  refine ⟨1, ?_⟩
  rw [run_round h]
  simp [answer, follow, passed, opened, asked, opening, prompts, World.shown]

theorem round_over_of_quit {l : List Char} {r : List (List Char)} {a : Action} (h : Sound w (l :: r))
    (ha : v.actionFor (trim l) = some a) (hi : interview v r a = none) : ∃ n, (round v).run e w =
      (.ok .over, passed (opening v (l :: r)) n r [] w.ticks w.transport w) := by
  have hq : a = .quit := by
    cases a with
    | quit => rfl
    | _ => cases hi
  subst hq
  refine ⟨1, ?_⟩
  rw [run_round h, show answer (l :: r) 0 = some (trim l) from rfl]
  simp [follow, ha, passed, opened, asked, opening, prompts, World.shown]

/-- **A session is its plan.** What it performs is the operations of its plan, what it shows is the transcript of what
comes of them, and what it leaves unread are the lines that the plan leaves. -/
theorem run_plan {I : σ → Prop} (he : Dialogue.Answers e I NoTerminal) (v : Variant) (ls : List (List Char)) :
    ∀ w : World σ, Sound w ls → I w.transport → ∃ outcomes log records n ticks s,
      outcomes.length = (plan v ls).calls.length ∧
      (∀ w' : World σ, w'.ticks = w.ticks → w'.transport = w.transport →
        (Operation.performAll v (plan v ls).calls).run e w' =
          (.ok outcomes, { w' with log := w'.log ++ records, ticks := ticks, transport := s })) ∧
      run e v w = (.ok (), passed ((plan v ls).transcript outcomes) n (plan v ls).left log ticks s w) := by
  induction ls using plan.induct v with
  | case1 =>
    intro w h hI
    obtain ⟨n, hr⟩ := round_over_of_nil (e := e) (v := v) h
    refine ⟨[], [], [], n, w.ticks, w.transport, ?_, fun w' h₁ h₂ => ?_, ?_⟩
    · rw [plan]; rfl
    · rw [plan, List.append_nil, ← h₁, ← h₂]; rfl
    · rw [run_of_over hr, plan]; rfl
  | case2 l r hl ih =>
    intro w h hI
    obtain ⟨log, n, hr⟩ := round_ignore (e := e) h hl
    obtain ⟨os, log', records, n', ticks, s, hlen, hall, hrun⟩ := ih _ (h.passed (opening v (l :: r)) n r log _ _) hI
    refine ⟨os, log ++ log', records, n + n', ticks, s, ?_, fun w' h₁ h₂ => ?_, ?_⟩
    · rw [plan, hl]; exact hlen
    · rw [plan, hl]; exact hall w' h₁ h₂
    · rw [run_of_again hr, hrun, passed_passed, plan, hl]
      simp [Plan.after, Plan.transcript, narrate]
  | case3 l r a ha hi =>
    intro w h hI
    obtain ⟨n, hr⟩ := round_over_of_quit (e := e) h ha hi
    refine ⟨[], [], [], n, w.ticks, w.transport, ?_, fun w' h₁ h₂ => ?_, ?_⟩
    · simp only [plan, ha, hi]; rfl
    · simp only [plan, ha, hi, List.append_nil, ← h₁, ← h₂]; rfl
    · rw [run_of_over hr]; simp only [plan, ha, hi]; rfl
  | case4 l r a ha i hi ih =>
    intro w h hI
    have hplan : plan v (l :: r) = (plan v (r.drop i.labels.length)).after
        ⟨opening v (l :: r) ++ prompts i.labels r, .of a i.order⟩ := by rw [plan]; simp only [ha, hi]
    cases ho : i.order with
    | error err =>
      have herr := noTerminal_of_order hi ho
      obtain ⟨n, hr⟩ := round_refuse (e := e) h ha hi ho herr
      obtain ⟨os, log', records, n', ticks, s, hlen, hall, hrun⟩ := ih _ (h.passed
        (opening v (l :: r) ++ prompts i.labels r ++ exhibit (.error err)) n _ (complaints a (.error err)) _ _) hI
      refine ⟨os, complaints a (.error err) ++ log', records, n + n', ticks, s, ?_, fun w' h₁ h₂ => ?_, ?_⟩
      · rw [hplan, ho]; exact hlen
      · rw [hplan, ho]; exact hall w' h₁ h₂
      · rw [run_of_again hr, hrun, passed_passed, hplan, ho]
        simp only [Plan.after, Plan.transcript, Deed.of, narrate, List.append_assoc]
    | ok op =>
      obtain ⟨o, log₁, ticks₁, s₁, hno, hI₁, hop⟩ := (Operation.silent_perform v op).run he w.ticks w.transport hI
      have hp := hop (asked i.labels r (opened v (l :: r) w)) rfl rfl
      rw [← run_perform_ordered h.opened hi ho] at hp
      obtain ⟨n, hr⟩ := round_action h ha hi hno hp
      obtain ⟨os, log', records, n', ticks, s, hlen, hall, hrun⟩ := ih _ (h.passed
        (opening v (l :: r) ++ prompts i.labels r ++ exhibit o) n _ (log₁ ++ complaints a o) ticks₁ s₁) hI₁
      refine ⟨o :: os, log₁ ++ complaints a o ++ log', log₁ ++ records, n + n', ticks, s, ?_, fun w' h₁ h₂ => ?_, ?_⟩
      · rw [hplan, ho]; exact congrArg (· + 1) hlen
      · have hall' := hall { w' with log := w'.log ++ log₁, ticks := ticks₁, transport := s₁ } rfl rfl
        rw [hplan, ho]
        show (Operation.performAll v (op :: (plan v (r.drop i.labels.length)).calls)).run e w' = _
        rw [Operation.performAll, Dialogue.run_bind, hop w' h₁ h₂]
        simp only
        rw [Dialogue.run_bind, hall', List.append_assoc]
        rfl
      · rw [run_of_again hr, hrun, passed_passed, hplan, ho]
        simp only [Plan.after, Plan.transcript, Deed.of, narrate, List.append_assoc]

/-- **Sessions are staged.** Over the recording transport, with input that is UTF-8, replies without errors of the
terminal and a sink without limits, a session performs the operations of its plan and nothing else, leaves the same
requests, the same replies and the same clock behind as these operations alone, reads the lines that the plan reads,
and shows the transcript of what came of the operations. -/
theorem session_staged (clock : Nat → Int) (v : Variant) {w : World Recording} {bytes : List UInt8}
    {text : List Char} (utf8 : Utf8.decode? bytes = some text) (input : w.input = byteLines bytes)
    (sink : w.sink.Boundless) (replies : ∀ reply ∈ w.transport.replies, NoTerminal reply) :
    ∃ outcomes w₁ w₂,
      (Operation.performAll v (plan v (lines text)).calls).run ⟨Recording.transport, clock⟩ w = (.ok outcomes, w₁) ∧
      outcomes.length = (plan v (lines text)).calls.length ∧
      run ⟨Recording.transport, clock⟩ v w = (.ok (), w₂) ∧
      w₂.transport = w₁.transport ∧ w₂.ticks = w₁.ticks ∧
      w₂.input = (plan v (lines text)).left.map Utf8.encode ∧
      w₂.sink.stored = w.sink.stored ++ Utf8.encode ((plan v (lines text)).transcript outcomes) := by
  have h : Sound w (lines text) :=
    ⟨by rw [input, Utf8.decode?_eq_some_iff.mp utf8, Utf8.byteLines_encode], sink⟩
  obtain ⟨outcomes, log, records, n, ticks, s, hlen, hall, hrun⟩ :=
    run_plan (Recording.answers clock) v (lines text) w h replies
  exact ⟨outcomes, _, _, hall w rfl rfl, hlen, hrun, rfl, rfl, rfl, rfl⟩

/-- Lines with a choice that names nothing, a fetch, a refused identifier, a refused amount after which the next line is
read as a choice again, a refund, and a line that nobody reads. -/
def mixedInput : List Char := "9\n1\n p1 \n3\n..\ns\nlots\n4\nr1\nq\nrest".toList

/-- These lines over replies that refuse the fetch and answer the refund with no document. -/
def mixedWorld : World Recording where
  input := byteLines (Utf8.encode mixedInput)
  transport := { replies := [.error (.status 404 []), .ok ⟨200, "no document".toList⟩] }

theorem session_staged_mixed :
    (plan .current (lines mixedInput)).calls = [.get "p1".toList, .refund "r1".toList] ∧
    (plan .current (lines mixedInput)).left = ["rest".toList] ∧
    Utf8.decode? (Utf8.encode mixedInput) = some mixedInput ∧ mixedWorld.sink.Boundless ∧
    (∀ reply ∈ mixedWorld.transport.replies, NoTerminal reply) ∧
    ∃ outcomes w₁ w₂,
      (Operation.performAll .current (plan .current (lines mixedInput)).calls).run ⟨Recording.transport, fun _ => 0⟩
        mixedWorld = (.ok outcomes, w₁) ∧
      outcomes.length = (plan .current (lines mixedInput)).calls.length ∧
      run ⟨Recording.transport, fun _ => 0⟩ .current mixedWorld = (.ok (), w₂) ∧
      w₂.transport = w₁.transport ∧ w₂.ticks = w₁.ticks ∧
      w₂.input = (plan .current (lines mixedInput)).left.map Utf8.encode ∧
      w₂.sink.stored = mixedWorld.sink.stored ++
        Utf8.encode ((plan .current (lines mixedInput)).transcript outcomes) := by
  have utf8 := Utf8.decode?_encode mixedInput
  have replies : ∀ reply ∈ mixedWorld.transport.replies, NoTerminal reply := by
    intro reply h reason he
    simp only [mixedWorld, List.mem_cons, List.not_mem_nil, or_false] at h
    rcases h with rfl | rfl <;> cases he
  exact ⟨by decide +kernel, by decide +kernel, utf8, ⟨rfl, rfl⟩, replies,
    session_staged (fun _ => 0) .current utf8 rfl ⟨rfl, rfl⟩ replies⟩

end PaymentDesk.Session
