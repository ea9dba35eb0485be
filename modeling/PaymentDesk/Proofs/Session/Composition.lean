import PaymentDesk.Proofs.Dialogue.Input
import PaymentDesk.Proofs.Dialogue.Simulation
import PaymentDesk.Proofs.Session.CutShort
import PaymentDesk.Proofs.Session.Failure

/-!
# Sessions on parts of an input

A session takes its lines off the input round by round, and keeps nothing else in mind. So when it ends because there is
no line for a choice, and no other question before has missed its line (`RunsOut`), a session on a longer input goes on
from there as a new session on the rest; and after a choice to quit the rest has no influence. **`run_append` says so of
an input that is cut behind the end of a line.**

If a question of an action is the first to miss its line, a longer input answers it (`question_answered`).
-/

namespace PaymentDesk

open Text

namespace Session

section Rounds

variable {σ : Type} {e : Setting σ} {v : Variant} {w w' : World σ}

/-- The steps of a session lead from the input to what is left of it. -/
theorem consumes_steps (e : Setting σ) (v : Variant) (w : World σ) :
    Consumes w.input (steps e v w) (run e v w).2.input :=
  of_rounds (P := fun w x w' => Consumes w.input x w'.input) (fun w => (round v).consumes_steps w) Consumes.append w

/-- A session that misses no line runs in the same way when more lines follow. -/
theorem run_followed (w : World σ) (more : List (List UInt8)) (h : .read none ∉ steps e v w) :
    run e v (w.followed more) = ((run e v w).1, (run e v w).2.followed more) := by
  induction w using Session.run.induct e v with
  | case1 w err w' hr =>
    rw [steps_of_error hr] at h
    have hround := (round v).run_followed w more h
    rw [hr] at hround
    rw [run_of_error hround, run_of_error hr]
  | case2 w w' hr =>
    rw [steps_of_over hr] at h
    have hround := (round v).run_followed w more h
    rw [hr] at hround
    rw [run_of_over hround, run_of_over hr]
  | case3 w w' hr ih =>
    rw [steps_of_again hr, List.mem_append, not_or] at h
    have hround := (round v).run_followed w more h.1
    rw [hr] at hround
    rw [run_of_again hround, run_of_again hr]
    exact ih h.2

/-! ## Where the input ends -/

/-- The last steps are that there is no line left for a choice, and the end of the line of the question; and no line was
missing before. -/
def RunsOut (x : List Step) : Prop :=
  ∃ before, x = before ++ [.read none, .wrote .prose ['\n'] (.ok ())] ∧ .read none ∉ before

/-- The steps before the end of the input is met, if these are the last ones. -/
def beforeEnd? (x : List Step) : Option (List Step) :=
  match x.reverse with
  | .wrote .prose ['\n'] (.ok ()) :: .read none :: r => some r.reverse
  | _ => none

theorem beforeEnd?_eq_some {x before : List Step} :
    beforeEnd? x = some before ↔ x = before ++ [.read none, .wrote .prose ['\n'] (.ok ())] := by
  rw [beforeEnd?]
  constructor
  · intro h
    split at h
    · next r hx =>
      cases h
      rw [List.reverse_eq_iff.mp hx]
      simp
    · cases h
  · rintro rfl
    simp

instance : DecidablePred EndsWithInput := fun x => decidable_of_iff ((beforeEnd? x).isSome = true) <| by
  rw [Option.isSome_iff_exists]
  exact exists_congr fun _ => beforeEnd?_eq_some

instance : DecidablePred RunsOut := fun x =>
  decidable_of_iff (∃ before ∈ beforeEnd? x, before.any Step.isMissing = false) <| by
    refine exists_congr fun before => and_congr beforeEnd?_eq_some ?_
    rw [List.any_eq_false]
    exact ⟨fun h hm => h _ hm rfl, fun h s hs hm => h (Step.isMissing_iff.mp hm ▸ hs)⟩

theorem EndsByQuitting.none_notMem (h : EndsByQuitting v (steps e v w)) : .read none ∉ steps e v w := by
  obtain ⟨before, bytes, l, hx, -⟩ := h
  have hconsumes := consumes_steps e v w
  rw [hx] at hconsumes ⊢
  rw [List.mem_append, not_or]
  exact ⟨hconsumes.none_notMem, by simp⟩

theorem EndsByQuitting.not_endsWithInput {x : List Step} (h : EndsByQuitting v x) : ¬ EndsWithInput x := by
  rintro ⟨before', hx'⟩
  obtain ⟨before, bytes, l, hx, -⟩ := h
  have hlast := congrArg List.getLast? (hx.symm.trans hx')
  simp at hlast

/-- A session whose last steps are those has not failed. -/
theorem run_of_endsWithInput (h : EndsWithInput (steps e v w)) : (run e v w).1 = .ok () := by
  cases hr : (run e v w).1 with
  | ok u => rfl
  | error err =>
    obtain ⟨before, s, hx, -, hs⟩ := (whole e v w).accounts.eq_error_iff.mp hr
    obtain ⟨before', hx'⟩ := h
    have hlast := congrArg List.getLast? (hx.symm.trans hx')
    simp only [List.getLast?_append, List.getLast?_singleton] at hlast
    cases hlast
    cases hs

/-- The round that finds no line for a choice. -/
theorem round_of_nil (h : Sound w []) :
    (round v).run e w = (.ok .over, w.shown (menuText v ++ "Choice: \n".toList) 1) := by
  rw [run_round h]
  simp [answer, follow, opened, asked, World.shown, prompts, prompt, ← h.input]

/-- A session ends when there is no line for a choice, and after a choice to quit. -/
theorem choose_of_over (h : (round v).run e w = (.ok .over, w')) :
    (choose v).run e w = (.ok none, w') ∨ EndsByQuitting v ((round v).steps e w) := by
  rw [round_eq_choose] at h ⊢
  obtain ⟨answer, w₁, hchoose, h⟩ := Dialogue.run_bind_eq_ok.mp h
  have hchosen := (always_choose v).run e w
  rw [hchoose] at hchosen
  cases answer with
  | none =>
    rw [follow, Dialogue.run_pure] at h
    cases h
    exact .inl hchoose
  | some c =>
    rw [follow] at h
    cases ha : v.actionFor c with
    | none =>
      rw [ha] at h
      cases h
    | some a =>
      rw [ha] at h
      cases a with
      | quit =>
        obtain ⟨before, bytes, l, hx, hl, rfl⟩ := hchosen.given c rfl
        refine .inr ⟨before, bytes, l, ?_, hl, ha⟩
        rw [Dialogue.steps_bind, hchoose, hx]
        simp [follow, ha, pure, Dialogue.steps]
      | _ =>
        -- a round with any other action is followed by another round
        obtain ⟨o, w₂, -, h⟩ := Dialogue.run_bind_eq_ok.mp h
        obtain ⟨_, w₃, -, h⟩ := Dialogue.run_bind_eq_ok.mp h
        cases h

/-- When there is no line for a choice, the input is used up. -/
theorem input_of_choose (hw : w.sink.Boundless) (h : (choose v).run e w = (.ok none, w')) : w.input = [] := by
  rw [choose, Dialogue.run_bind, Dialogue.run_say hw] at h
  simp only at h
  rw [ask, Dialogue.run_bind, Dialogue.run_say (by exact hw)] at h
  simp only at h
  rw [Dialogue.run_bind, Dialogue.run_flush (by exact hw)] at h
  cases hi : w.input with
  | nil => rfl
  | cons bytes rest =>
    simp only [Dialogue.run_bind, Dialogue.line, Dialogue.run, World.shown, hi] at h
    cases hl : Utf8.decode? bytes with
    | none => simp [hl] at h
    | some l => simp [hl] at h

end Rounds

/-! ## Two sessions -/

section Recorded

variable (clock : Nat → Int) (v : Variant)

/-- **A session that runs out of input stands where its last round began.** There it would go on with whatever lines
follow. -/
theorem exists_of_runsOut (w : World Recording) (hw : w.sink.Boundless)
    (h : RunsOut (steps ⟨Recording.transport, clock⟩ v w)) : ∃ last : World Recording, Sound last [] ∧
      run ⟨Recording.transport, clock⟩ v w = (.ok (), last.shown (menuText v ++ "Choice: \n".toList) 1) ∧
      ∀ more, run ⟨Recording.transport, clock⟩ v (w.followed more) =
        run ⟨Recording.transport, clock⟩ v (last.followed more) := by
  have hends : EndsWithInput (steps ⟨Recording.transport, clock⟩ v w) := by
    obtain ⟨before, hx, -⟩ := h
    exact ⟨before, hx⟩
  have hok := run_of_endsWithInput hends
  induction w using Session.run.induct ⟨Recording.transport, clock⟩ v with
  | case1 w err w' hr =>
    rw [run_of_error hr] at hok
    cases hok
  | case2 w w' hr =>
    rw [steps_of_over hr] at hends
    have hmissing : (choose v).run _ w = (.ok none, w') :=
      (choose_of_over hr).resolve_right fun hq => hq.not_endsWithInput hends
    have hsound : Sound w [] := ⟨input_of_choose hw hmissing, hw⟩
    exact ⟨w, hsound, run_of_over (round_of_nil hsound), fun _ => rfl⟩
  | case3 w w' hr ih =>
    rw [run_of_again hr] at hok
    have hw' : w'.sink.Boundless := Dialogue.boundless_of_run hw hr
    -- the rest of the session ends in the same way, and the first round misses no line
    obtain ⟨before, hx, hbefore⟩ := h
    rw [steps_of_again hr] at hends hx
    have hends' : EndsWithInput (steps ⟨Recording.transport, clock⟩ v w') :=
      ((whole _ v w').ends hok).resolve_left fun hq => (hq.prepend _).not_endsWithInput hends
    obtain ⟨before', hx'⟩ := hends'
    rw [hx', ← List.append_assoc] at hx
    obtain rfl := List.append_cancel_right hx
    rw [List.mem_append, not_or] at hbefore
    obtain ⟨last, hlast, hrun, hfollowed⟩ := ih hw' ⟨before', hx', hbefore.2⟩ ⟨before', hx'⟩ hok
    refine ⟨last, hlast, by rw [run_of_again hr, hrun], fun more => ?_⟩
    have hround := (round v).run_followed w more hbefore.1
    rw [hr] at hround
    rw [run_of_again hround]
    exact hfollowed more

/-- A session adds to what its sink holds already what it would store in an empty one. -/
theorem run_onto (w : World Recording) (hw : w.sink.Boundless) :
    let fresh := run ⟨Recording.transport, clock⟩ v { w with sink := {} }
    run ⟨Recording.transport, clock⟩ v w = (fresh.1, { fresh.2 with
      sink := ⟨w.sink.stored ++ fresh.2.sink.stored, w.sink.flushes + fresh.2.sink.flushes, none, none⟩ }) := by
  intro fresh
  let events := history ⟨Recording.transport, clock⟩ v { w with sink := {} }
  have hfresh : fresh.2.sink = ({} : Sink).having events := (run_whole clock v { w with sink := {} } ⟨rfl, rfl⟩).1
  have hcut := (cut_session clock v { w with sink := {} } ⟨rfl, rfl⟩ w.sink).whole_of_none
  rw [Sink.play_boundless hw.1 hw.2] at hcut
  have hrun : run ⟨Recording.transport, clock⟩ v w = (fresh.1, { fresh.2 with sink := w.sink.having events }) :=
    hcut rfl
  rw [hrun, hfresh, hw.eq_mk]
  simp only [Sink.having, List.nil_append, Nat.zero_add]

end Recorded

end Session

/-- The world with this input to be read, before anything is written. -/
def World.reading {σ : Type} (bytes : List UInt8) (w : World σ) : World σ :=
  { w with input := byteLines bytes, sink := {} }

namespace Session

/-- **Sessions compose.** Let an input be cut behind the end of a line. If a session on the first part runs out of it,
the session on the whole input sends what that session and then a new one on the second part send, ends as the latter,
and its output is that of the first without the last menu, question and line end, and then that of the second. After a
choice to quit in the first part, the second has no influence. -/
theorem run_append (clock : Nat → Int) (v : Variant) (w : World Recording) (X Y : List UInt8)
    (hX : X = [] ∨ X.getLast? = some 10) :
    let e : Setting Recording := ⟨Recording.transport, clock⟩
    let first := run e v (w.reading X)
    let second := run e v (first.2.reading Y)
    let both := run e v (w.reading (X ++ Y))
    (RunsOut (steps e v (w.reading X)) → first.1 = .ok () ∧ both.1 = second.1 ∧ ∃ out n asked,
      first.2.sink = ⟨out ++ Utf8.encode (menuText v ++ "Choice: \n".toList), n + 1, none, none⟩ ∧
      second.2.transport.requests = first.2.transport.requests ++ asked ∧
      both.2 = { second.2 with sink := ⟨out ++ second.2.sink.stored, n + second.2.sink.flushes, none, none⟩ }) ∧
    (EndsByQuitting v (steps e v (w.reading X)) → both = (first.1, first.2.followed (byteLines Y))) := by
  intro e first second both
  have hlines : byteLines (X ++ Y) = byteLines X ++ byteLines Y := by
    refine splitAfter_append_of_ended _ (fun b hb => ?_) Y
    rcases hX with rfl | hX
    · cases hb
    · rw [hX] at hb
      cases hb
      rfl
  have hboth : both = run e v ((w.reading X).followed (byteLines Y)) := by
    show run e v (w.reading (X ++ Y)) = _
    rw [World.reading, hlines]
    rfl
  refine ⟨fun hout => ?_, fun hquit => ?_⟩
  · obtain ⟨last, hlast, hfirst, hfollowed⟩ := exists_of_runsOut clock v (w.reading X) ⟨rfl, rfl⟩ hout
    -- where the last round began, the second session begins too, but for the sink
    have hfirst : first = (.ok (), last.shown (menuText v ++ "Choice: \n".toList) 1) := hfirst
    have hsecond : first.2.reading Y = { last.followed (byteLines Y) with sink := {} } := by
      rw [hfirst, World.reading]
      simp [World.followed, World.shown, hlast.input]
    have hrest := run_onto clock v (last.followed (byteLines Y)) hlast.sink
    rw [← hsecond, ← hfollowed, ← hboth] at hrest
    obtain ⟨asked, hasked⟩ := requests_run clock v (first.2.reading Y)
    refine ⟨by rw [hfirst], by rw [hrest], last.sink.stored, last.sink.flushes, asked, ?_, hasked.symm, ?_⟩
    · rw [hfirst, World.sink_shown, Sink.after, hlast.sink.1, hlast.sink.2]
    · rw [hrest]
      rfl
  · rw [hboth]
    exact run_followed _ _ hquit.none_notMem

/-- A payment is fetched before the input ends, and the operator quits in the rest. -/
theorem run_append_get :
    let e : Setting Recording := ⟨Recording.transport, fun _ => 0⟩
    let w : World Recording := { transport := {} }
    let X := Utf8.encode "1\np1\n".toList
    let Y := Utf8.encode "q\n2\n".toList
    (X = [] ∨ X.getLast? = some 10) ∧ RunsOut (steps e .current (w.reading X)) ∧
      (run e .current (w.reading (X ++ Y))).1 = (run e .current ((run e .current (w.reading X)).2.reading Y)).1 := by
  intro e w X Y
  have hX : X = [] ∨ X.getLast? = some 10 := .inr (by decide +kernel)
  have hout : RunsOut (steps e .current (w.reading X)) := by decide +kernel
  exact ⟨hX, hout, ((run_append (fun _ => 0) .current w X Y hX).1 hout).2.1⟩

/-- A question of an action that is the first to miss its line is answered by a longer input: instead of the question for
a choice, the question for an identifier gets the line that follows. -/
theorem question_answered :
    let e : Setting Recording := ⟨Recording.transport, fun _ => 0⟩
    let w : World Recording := { transport := {} }
    let X := Utf8.encode "1\n".toList
    let Y := Utf8.encode "p1\nq\n".toList
    let first := run e .current (w.reading X)
    EndsWithInput (steps e .current (w.reading X)) ∧
      (run e .current (first.2.reading Y)).2.transport.requests.map Request.path = [] ∧
      (run e .current (w.reading (X ++ Y))).2.transport.requests.map Request.path = ["p1".toList] := by
  decide +kernel

end Session

end PaymentDesk
