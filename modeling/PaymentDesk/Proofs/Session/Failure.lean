import PaymentDesk.Program
import PaymentDesk.Proofs.Session.Round

/-!
# When a session fails

The steps of a session are those of its rounds, one after the other (`steps`). A session fails exactly with a step that
fails: when a write or a flush is refused, when a line is no text, or when a reply is an error of the terminal. Any other
error of an action is shown in one line, and the menu follows again.

**`run_error_iff` says so of every session**, over every sink and every transport, and that the program, whose
transport never gives such a reply, succeeds on every text once its settings are accepted.
-/

namespace PaymentDesk

open Text

namespace Session

variable {σ : Type} {e : Setting σ} {v : Variant} {w w' : World σ}

/-! ## Steps -/

/-- The worlds in which the rounds of a session begin. -/
def beginnings (e : Setting σ) (v : Variant) (w : World σ) : List (World σ) :=
  w :: match _h : (round v).run e w with
    | (.ok .again, w') => beginnings e v w'
    | (.ok .over, _) | (.error _, _) => []
termination_by w.input.length
decreasing_by exact length_input_of_round _h

/-- The steps of a session. -/
def steps (e : Setting σ) (v : Variant) (w : World σ) : List Step := (beginnings e v w).flatMap ((round v).steps e)

theorem beginnings_of_again (h : (round v).run e w = (.ok .again, w')) :
    beginnings e v w = w :: beginnings e v w' := by
  rw [beginnings]
  split <;> simp_all

theorem beginnings_of_over (h : (round v).run e w = (.ok .over, w')) : beginnings e v w = [w] := by
  rw [beginnings]
  split <;> simp_all

theorem beginnings_of_error {err : Error} (h : (round v).run e w = (.error err, w')) : beginnings e v w = [w] := by
  rw [beginnings]
  split <;> simp_all

theorem steps_of_again (h : (round v).run e w = (.ok .again, w')) :
    steps e v w = (round v).steps e w ++ steps e v w' := by
  rw [steps, beginnings_of_again h, List.flatMap_cons, steps]

theorem steps_of_over (h : (round v).run e w = (.ok .over, w')) : steps e v w = (round v).steps e w := by
  rw [steps, beginnings_of_over h, List.flatMap_singleton]

theorem steps_of_error {err : Error} (h : (round v).run e w = (.error err, w')) :
    steps e v w = (round v).steps e w := by
  rw [steps, beginnings_of_error h, List.flatMap_singleton]

/-- What holds of every round with its steps, and of two parts together if it holds of each, holds of a session. -/
theorem of_rounds {P : World σ → List Step → World σ → Prop}
    (hround : ∀ w, P w ((round v).steps e w) ((round v).run e w).2)
    (happend : ∀ {w w' w'' x y}, P w x w' → P w' y w'' → P w (x ++ y) w'') (w : World σ) :
    P w (steps e v w) (run e v w).2 := by
  induction w using Session.run.induct e v with
  | case1 w err w' h =>
    have hw := hround w
    rw [h] at hw
    rwa [steps_of_error h, run_of_error h]
  | case2 w w' h =>
    have hw := hround w
    rw [h] at hw
    rwa [steps_of_over h, run_of_over h]
  | case3 w w' h ih =>
    have hw := hround w
    rw [h] at hw
    rw [steps_of_again h, run_of_again h]
    exact happend hw ih

/-- From where a round begins, the session is a session of its own. -/
theorem steps_of_mem_beginnings (h : w' ∈ beginnings e v w) :
    ∃ earlier, steps e v w = earlier ++ steps e v w' := by
  induction w using Session.run.induct e v with
  | case1 w err w'' hr =>
    rw [beginnings_of_error hr, List.mem_singleton] at h
    exact ⟨[], by rw [h, List.nil_append]⟩
  | case2 w w'' hr =>
    rw [beginnings_of_over hr, List.mem_singleton] at h
    exact ⟨[], by rw [h, List.nil_append]⟩
  | case3 w w'' hr ih =>
    rw [beginnings_of_again hr, List.mem_cons] at h
    rcases h with rfl | h
    · exact ⟨[], rfl⟩
    · obtain ⟨earlier, he⟩ := ih h
      exact ⟨(round v).steps e w ++ earlier, by rw [steps_of_again hr, he, List.append_assoc]⟩

/-! ## The end -/

/-- The steps of a session: what those of a round are like, with the end of the session. -/
structure Whole (v : Variant) (x : List Step) (r : Except Error Unit) : Prop where
  opens : Opens v x
  accounts : Accounts x r
  presents : Presents x
  ends : r = .ok () → EndsByQuitting v x ∨ EndsWithInput x

/-- **The steps of every session.** -/
theorem whole (e : Setting σ) (v : Variant) (w : World σ) : Whole v (steps e v w) (run e v w).1 := by
  induction w using Session.run.induct e v with
  | case1 w err w' h =>
    have hround := (always_round v).run e w
    rw [h] at hround
    rw [run_of_error h, steps_of_error h]
    exact ⟨hround.opens, hround.accounts, hround.presents, nofun⟩
  | case2 w w' h =>
    have hround := (always_round v).run e w
    rw [h] at hround
    rw [run_of_over h, steps_of_over h]
    exact ⟨hround.opens, hround.accounts, hround.presents, fun _ => hround.ends rfl⟩
  | case3 w w' h ih =>
    have hround := (always_round v).run e w
    rw [h] at hround
    rw [run_of_again h, steps_of_again h]
    refine ⟨?_, .prepend hround.accounts ih.accounts, hround.presents.append ih.presents, fun hr => ?_⟩
    · obtain ⟨result, rest, hopens⟩ := hround.opens
      exact ⟨result, rest ++ steps e v w', by rw [hopens, List.cons_append]⟩
    · exact (ih.ends hr).imp (.prepend _) (.prepend _)

/-- A failure is an error in writing out a document exactly when a document is being written. -/
theorem kind_of_failure {s : Step} {err : Error} (h : s.failure? = some err) :
    if s.document?.isSome then ∃ reason, err = .json reason else ∃ reason, err = .io reason := by
  cases s with
  | wrote p text result =>
    rcases result with f | ⟨⟩
    · cases p <;> cases h <;> exact ⟨_, rfl⟩
    · cases h
  | flushed result =>
    rcases result with f | ⟨⟩ <;> cases h
    exact ⟨_, rfl⟩
  | read line =>
    cases line with
    | none => cases h
    | some bytes =>
      simp only [Step.failure?] at h
      split at h <;> cases h
      exact ⟨_, rfl⟩
  | noted record => cases h
  | sent q reply =>
    rcases reply with (_ | _ | _ | _ | _ | _) | _ <;> cases h
    exact ⟨_, rfl⟩

/-! ## Other errors -/

/-- In the round that begins here, some action is chosen and comes to an outcome, with these steps. -/
structure ComesTo (e : Setting σ) (v : Variant) (w : World σ) (a : Action) (o : Operation.Outcome) (x : List Step) :
    Prop where
  chosen : ∃ c w₁ w₂, (choose v).run e w = (.ok (some c), w₁) ∧ v.actionFor c = some a ∧
    (perform v a).run e w₁ = (.ok o, w₂) ∧ x = (choose v).steps e w ++ (perform v a).steps e w₁

/-- A round in which an action comes to an outcome ends with the report of it. -/
theorem round_of_comesTo {a : Action} {o : Operation.Outcome} {x : List Step} (h : ComesTo e v w a o x)
    (hq : a ≠ .quit) : ∃ w₂ : World σ,
      (round v).run e w = (report a o >>= fun _ => pure .again : Dialogue Turn).run e w₂ ∧
      (round v).steps e w = x ++ (report a o >>= fun _ => pure .again : Dialogue Turn).steps e w₂ := by
  obtain ⟨c, w₁, w₂, hc, ha, hp, rfl⟩ := h.chosen
  refine ⟨w₂, ?_, ?_⟩
  · rw [round_eq_choose, Dialogue.run_bind, hc]
    simp only
    rw [follow_of_actionFor ha hq, Dialogue.run_bind, hp]
  · rw [round_eq_choose, Dialogue.steps_bind, hc]
    simp only
    rw [follow_of_actionFor ha hq, Dialogue.steps_bind, hp, List.append_assoc]

/-- The record of a failed action. -/
def warning (a : Action) (err : Error) : Log.Record :=
  ⟨.warn, .session, a.label ++ " failed: ".toList ++ err.message⟩

/-- **An error that is none of the terminal is shown**, and if it could be, the menu follows. -/
theorem steps_of_comesTo {a : Action} {err : Error} {x : List Step} (h : ComesTo e v w a (.error err) x)
    (herr : NoTerminal (.error err : Operation.Outcome)) : ∃ result later,
      steps e v w = x ++ .noted (warning a err) :: .wrote .prose (diagnostic err) result :: later ∧
      (result = .ok () → Opens v later) := by
  have hq : a ≠ .quit := by
    rintro rfl
    obtain ⟨c, w₁, w₂, -, -, hp, -⟩ := h.chosen
    cases hp
  have hreport : report a (.error err) = Dialogue.note (warning a err) (Dialogue.say (diagnostic err)) := by
    cases err with
    | io reason => exact absurd rfl (herr reason)
    | _ => rfl
  obtain ⟨w₂, hround, hsteps⟩ := round_of_comesTo h hq
  rw [hreport] at hround hsteps
  rcases hw : w₂.sink.write (Utf8.encode (diagnostic err)) with ⟨f | ⟨⟩, s⟩
  · refine ⟨.error f, [], ?_, nofun⟩
    simp only [Dialogue.say, bind, Dialogue.bind, Dialogue.run, Dialogue.steps, hw] at hround hsteps
    rw [steps_of_error hround, hsteps]
  · let next : World σ := { w₂ with log := w₂.log ++ [warning a err], sink := s }
    refine ⟨.ok (), steps e v next, ?_, fun _ => (whole e v next).opens⟩
    simp only [Dialogue.say, bind, Dialogue.bind, Dialogue.run, Dialogue.steps, hw] at hround hsteps
    have hagain : (round v).run e w = (.ok .again, next) := hround
    rw [steps_of_again hagain, hsteps]
    simp [pure, Dialogue.steps]

end Session

/-! ## The program -/

/-- The transport over a network gives no error of the terminal. -/
theorem Wire.noTerminal_send (x : Wire) (q : Request) (n : Network) : NoTerminal (x.send q n).1 := by
  rw [Wire.send]
  split
  · next err h =>
    intro reason hr
    cases hr
    simp only [Config.outgoing, Config.urlFor] at h
    split at h <;> cases h
  · intro reason hr
    split at hr
    · cases hr
    · simp only [Wire.conclude] at hr
      split at hr <;> cases hr

namespace Session

/-- At a sound terminal, and without errors of the terminal among the replies, a session on any text succeeds. -/
theorem run_eq_ok {I : σ → Prop} (he : Dialogue.Answers e I NoTerminal) (hI : I w.transport) (v : Variant)
    (sink : w.sink.Boundless) {bytes : List UInt8} (input : w.input = byteLines bytes)
    (utf8 : (Utf8.decode? bytes).isSome) : (run e v w).1 = .ok () := by
  obtain ⟨text, htext⟩ := Option.isSome_iff_exists.mp utf8
  have sound : Sound w (lines text) :=
    ⟨by rw [input, Utf8.decode?_eq_some_iff.mp htext, Utf8.byteLines_encode], sink⟩
  obtain ⟨outcomes, log, records, n, ticks, s, -, -, hrun⟩ := run_plan he v (lines text) w sound hI
  rw [hrun]

/-- **When a session fails.** It ends with an error exactly when its last step fails, and no other step ever does; else
it ends with a choice to quit, or with the end of the input. The error is one of the document exactly when a document is
being written out, and otherwise one of the terminal. Any other error of an action is shown, and the menu follows. So a
session at a sound terminal succeeds when no reply is an error of the terminal, and so does the program. -/
theorem run_error_iff {σ : Type} (e : Setting σ) (v : Variant) (w : World σ) :
    (∀ err, (run e v w).1 = .error err ↔ FailsWith err (steps e v w)) ∧
    ((run e v w).1 = .ok () ↔ Unfailing (steps e v w)) ∧
    ((run e v w).1 = .ok () → EndsByQuitting v (steps e v w) ∨ EndsWithInput (steps e v w)) ∧
    (∀ s ∈ steps e v w, ∀ err, s.failure? = some err →
      if s.document?.isSome then ∃ reason, err = .json reason else ∃ reason, err = .io reason) ∧
    Presents (steps e v w) ∧
    (∀ w' ∈ beginnings e v w, ∀ a err x, ComesTo e v w' a (.error err) x →
      NoTerminal (.error err : Operation.Outcome) → ∃ earlier result later,
        steps e v w = earlier ++ x ++ .noted (warning a err) :: .wrote .prose (diagnostic err) result :: later ∧
        (result = .ok () → Opens v later)) ∧
    (∀ (I : σ → Prop) (bytes : List UInt8), Dialogue.Answers e I NoTerminal → I w.transport → w.sink.Boundless →
      w.input = byteLines bytes → (Utf8.decode? bytes).isSome → (run e v w).1 = .ok ()) ∧
    ∀ (s : Program.Start) o c, CommandLine.settings s.arguments s.environment = .ok o →
      Config.make o.baseUrl o.serviceId (o.timeout.map (· * 1000)) = .ok c → (Utf8.decode? s.input).isSome →
        (Program.run s).code = 0 := by
  have hwhole := whole e v w
  refine ⟨fun err => hwhole.accounts.eq_error_iff, ?_, hwhole.ends, fun s _ err => kind_of_failure, hwhole.presents,
    fun w' hw' a err x hx herr => ?_, fun I bytes he hI sink input utf8 => run_eq_ok he hI v sink input utf8,
    fun s o c ho hc hs => ?_⟩
  · rw [← hwhole.accounts.eq_ok_iff]
    exact ⟨fun h => ⟨(), h⟩, fun ⟨_, h⟩ => h⟩
  · obtain ⟨earlier, hearlier⟩ := steps_of_mem_beginnings hw'
    obtain ⟨result, later, hsteps, hopens⟩ := steps_of_comesTo hx herr
    exact ⟨earlier, result, later, by rw [hearlier, hsteps, List.append_assoc], hopens⟩
  · have hserve : (Program.serve s o.variant c).1 = .ok () :=
      run_eq_ok (I := fun _ => True) (fun q n _ => ⟨Wire.noTerminal_send _ q n, trivial⟩) trivial o.variant
        ⟨rfl, rfl⟩ rfl hs
    rw [Program.run, ho]
    simp only [hc]
    rw [show Program.serve s o.variant c = (.ok (), (Program.serve s o.variant c).2) from Prod.ext hserve rfl]

/-- A sink that has no room for the whole document: the session ends while it is being written out. -/
theorem run_error_iff_narrow :
    let e : Setting Recording := ⟨Recording.transport, fun _ => 0⟩
    let w : World Recording := {
      input := byteLines (Utf8.encode "1\np1\nq\n".toList)
      sink := { writeLimit := some 160 }
      transport := { replies := [.ok ⟨200, "\x7b\"id\": 1\x7d".toList⟩] } }
    (run e .current w).1 = .error (.json "sink full".toList) ∧
      FailsWith (.json "sink full".toList) (steps e .current w) := by
  intro e w
  have hrun : (run e .current w).1 = .error (.json "sink full".toList) := by
    have key : (match (run e .current w).1 with
      | .error err => decide (err = .json "sink full".toList)
      | .ok _ => false) = true := by decide +kernel
    split at key
    · next err herr =>
      rw [herr, of_decide_eq_true key]
    · cases key
  exact ⟨hrun, ((run_error_iff e .current w).1 _).mp hrun⟩

end Session

end PaymentDesk
