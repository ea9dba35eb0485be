import PaymentDesk.Proofs.Dialogue.Input
import PaymentDesk.Proofs.Session.Loop

/-!
# The lines of a round

A dialogue asks for a bounded number of lines (`Dialogue.Reads`), and if there are as many, none is missing
(`none_notMem_of_reads`). A round asks for seven lines at most: the choice, and the six of a search (`reads_round`).
**So a round over seven lines runs in the same way whatever follows them** (`round_followed`), be it text or not.
-/

namespace PaymentDesk

/-! ## Counting lines -/

namespace Dialogue

variable {α β σ : Type} {m n : Nat}

/-- At most so many lines are asked for, whatever happens. -/
def Reads (n : Nat) (d : Dialogue α) : Prop := d.Always fun x _ => x.countP Step.isRead ≤ n

theorem Reads.mono {d : Dialogue α} (hd : d.Reads m) (h : m ≤ n) : d.Reads n :=
  Always.mono hd fun _ _ hx => Nat.le_trans hx h

theorem Reads.bind {d : Dialogue α} {f : α → Dialogue β} (hd : d.Reads m) (hf : ∀ a, (f a).Reads n) :
    (d >>= f).Reads (m + n) := by
  refine Always.bind hd (fun x err hx => Nat.le_trans hx (Nat.le_add_right m n)) fun x a hx => ?_
  refine Always.mono (hf a) fun y r hy => ?_
  rw [List.countP_append]
  omega

theorem reads_pure (a : α) : (pure a : Dialogue α).Reads 0 := Nat.le_refl 0

theorem reads_say (text : List Char) : (say text).Reads 0 := ⟨fun _ => Nat.le_refl 0, Nat.le_refl 0⟩

theorem reads_log (level : Log.Level) (source : Log.Source) (text : List Char) : (log level source text).Reads 0 :=
  Nat.le_refl 0

theorem reads_request (r : Request) : (request r).Reads 0 := fun _ => Nat.le_refl 0

end Dialogue

/-- A line is missing only when more lines are asked for than there are. -/
theorem Consumes.length_lt {input left : List (List UInt8)} {x : List Step} (h : Consumes input x left)
    (hm : .read none ∈ x) : input.length < x.countP Step.isRead := by
  induction h with
  | done _ => cases hm
  | line _ ih =>
    have hx := ih ((List.mem_cons.mp hm).resolve_left nofun)
    rw [List.countP_cons_of_pos rfl, List.length_cons]
    omega
  | missing _ _ =>
    rw [List.countP_cons_of_pos rfl]
    exact Nat.succ_pos _
  | other hs _ ih =>
    rw [List.countP_cons_of_neg (by simp [hs])]
    refine ih ((List.mem_cons.mp hm).resolve_left ?_)
    rintro rfl
    cases hs

/-- If there are as many lines as are asked for, none is missing. -/
theorem Dialogue.none_notMem_of_reads {α σ : Type} {e : Setting σ} {n : Nat} {d : Dialogue α} (hd : d.Reads n)
    {w : World σ} (h : n ≤ w.input.length) : .read none ∉ d.steps e w := by
  intro hm
  have hlt := (d.consumes_steps w).length_lt hm
  have hle := Always.run hd e w
  omega

/-! ## Operations -/

namespace Operation

theorem reads_fetch (r : Request) : (fetch r).Reads 0 := by
  refine (Dialogue.reads_request r).bind (n := 0) fun reply => ?_
  cases reply <;> exact Dialogue.reads_pure _

/-- An operation asks nothing of the operator. -/
theorem reads_perform (v : Variant) (op : Operation) : (op.perform v).Reads 0 := by
  cases op with
  | list => exact reads_fetch _
  | get id => exact reads_fetch _
  | create => exact fun second => reads_fetch (creationRequest v.referenceStyle second)
  | createAt second => exact reads_fetch _
  | search c => exact reads_fetch _
  | cancel id =>
    refine (Dialogue.reads_request _).bind (n := 0) fun reply => ?_
    cases reply with
    | error err => exact Dialogue.reads_pure _
    | ok response => exact (Dialogue.reads_log _ _ _).bind (n := 0) fun _ => reads_fetch _
  | refund reference =>
    refine (Dialogue.reads_request _).bind (n := 0) fun reply => ?_
    cases reply with
    | error err => exact Dialogue.reads_pure _
    | ok response => exact (Dialogue.reads_log _ _ _).bind (n := 0) fun _ => Dialogue.reads_pure _

end Operation

/-! ## Rounds -/

namespace Session

theorem reads_ask (label : List Char) : (ask label).Reads 1 := by
  refine (Dialogue.reads_say _).bind (n := 1) fun _ => ⟨fun _ => Nat.zero_le 1, ?_⟩
  have hline : Dialogue.line.Reads 1 := ⟨Nat.le_refl 1, fun _ _ => Nat.le_refl 1, fun _ _ _ => Nat.le_refl 1⟩
  refine hline.bind (n := 0) fun answer => ?_
  cases answer with
  | none => exact (Dialogue.reads_say _).bind (n := 0) fun _ => Dialogue.reads_pure _
  | some l => exact Dialogue.reads_pure _

theorem reads_require (label : List Char) : (require label).Reads 1 :=
  (reads_ask label).bind (n := 0) fun _ => Dialogue.reads_pure _

theorem reads_optional (label : List Char) : (optional label).Reads 1 :=
  (reads_ask _).bind (n := 0) fun answer => by rcases answer with _ | _ | ⟨c, s⟩ <;> exact Dialogue.reads_pure _

theorem reads_askCriteria : askCriteria.Reads 6 := by
  refine (reads_optional _).bind (n := 5) fun answer => ?_
  cases amount answer with
  | error err => exact (Dialogue.reads_pure _).mono (Nat.zero_le 5)
  | ok n =>
    refine (reads_optional _).bind (n := 4) fun _ => ?_
    refine (reads_optional _).bind (n := 3) fun _ => ?_
    refine (reads_optional _).bind (n := 2) fun _ => ?_
    refine (reads_optional _).bind (n := 1) fun _ => ?_
    refine (reads_optional _).bind (n := 0) fun _ => ?_
    exact Dialogue.reads_pure _

theorem reads_order (v : Variant) (a : Action) : (order v a).Reads 6 := by
  have required (label : List Char) (op : List Char → Operation) :
      (require label >>= fun r => pure (r.map (some ∘ op)) : Dialogue _).Reads 6 :=
    ((reads_require label).bind (n := 0) fun _ => Dialogue.reads_pure _).mono (by decide)
  cases a with
  | get => exact required _ _
  | cancel => exact required _ _
  | refund => exact required _ _
  | search => exact reads_askCriteria.bind (n := 0) fun _ => Dialogue.reads_pure _
  | _ => exact (Dialogue.reads_pure _).mono (Nat.zero_le 6)

theorem reads_perform (v : Variant) (a : Action) : (perform v a).Reads 6 := by
  refine (reads_order v a).bind (n := 0) fun answer => ?_
  rcases answer with err | _ | op
  · exact Dialogue.reads_pure _
  · exact Dialogue.reads_pure _
  · exact Operation.reads_perform v op

theorem reads_report (a : Action) (o : Operation.Outcome) : (report a o).Reads 0 := by
  rcases o with err | _ | d
  · cases err with
    | io reason => exact Nat.le_refl 0
    | _ => exact (Dialogue.reads_log _ _ _).bind (n := 0) fun _ => Dialogue.reads_say _
  · exact Dialogue.reads_pure _
  · exact ⟨fun _ => Nat.le_refl 0, fun _ => Nat.le_refl 0, fun _ => Nat.le_refl 0, Nat.le_refl 0⟩

/-- **A round asks for seven lines at most.** -/
theorem reads_round (v : Variant) : (round v).Reads 7 := by
  rw [round_eq]
  refine (Dialogue.reads_say _).bind (n := 7) fun _ => (reads_ask _).bind (n := 6) fun answer => ?_
  cases answer with
  | none => exact (Dialogue.reads_pure _).mono (Nat.zero_le 6)
  | some c =>
    rw [follow]
    cases v.actionFor c with
    | none => exact ((Dialogue.reads_log _ _ _).bind (n := 0) fun _ => Dialogue.reads_pure _).mono (Nat.zero_le 6)
    | some a =>
      have acts : (perform v a >>= fun o => report a o >>= fun _ => pure Turn.again).Reads 6 :=
        (reads_perform v a).bind (n := 0) fun o => (reads_report a o).bind (n := 0) fun _ => Dialogue.reads_pure _
      cases a with
      | quit => exact (Dialogue.reads_pure _).mono (Nat.zero_le 6)
      | _ => exact acts

/-- **A round over seven lines runs in the same way whatever follows them.** -/
theorem round_followed {σ : Type} {e : Setting σ} (v : Variant) {w : World σ} (h : 7 ≤ w.input.length)
    (more : List (List UInt8)) :
    (round v).run e (w.followed more) = (((round v).run e w).1, ((round v).run e w).2.followed more) :=
  (round v).run_followed w more (Dialogue.none_notMem_of_reads (reads_round v) h)

end Session

end PaymentDesk
