import PaymentDesk.Session

/-!
# The loop of a session

A session is its first round and, if another one follows, a session from where that round ended (`run_eq`). A round is
the menu, a question, and what follows the answer (`round_eq`).
-/

namespace PaymentDesk.Session

variable {σ : Type} {e : Setting σ} {v : Variant} {w w' : World σ}

/-- A session goes on exactly after rounds that end with `again`. -/
theorem run_eq (e : Setting σ) (v : Variant) (w : World σ) : run e v w = match (round v).run e w with
    | (.error err, w') => (.error err, w')
    | (.ok .over, w') => (.ok (), w')
    | (.ok .again, w') => run e v w' := by
  rw [run]
  split <;> simp_all

theorem run_of_over (h : (round v).run e w = (.ok .over, w')) : run e v w = (.ok (), w') := by
  rw [run_eq, h]

theorem run_of_again (h : (round v).run e w = (.ok .again, w')) : run e v w = run e v w' := by
  rw [run_eq, h]

theorem run_of_error {err : Error} (h : (round v).run e w = (.error err, w')) : run e v w = (.error err, w') := by
  rw [run_eq, h]

/-- What follows the answer to the question for a choice. -/
def follow (v : Variant) : Option (List Char) → Dialogue Turn
  | none => pure .over
  | some choice =>
    match v.actionFor choice with
    | none => do
      Dialogue.log .debug .session ("ignoring unrecognised choice ".toList ++ Text.quoted choice)
      pure .again
    | some .quit => pure .over
    | some a => do
      report a (← perform v a)
      pure .again

theorem round_eq (v : Variant) :
    round v = Dialogue.say (menuText v) >>= fun _ => ask "Choice".toList >>= follow v := rfl

end PaymentDesk.Session
