import PaymentDesk.Proofs.Dialogue.Steps
import PaymentDesk.Proofs.Session.Loop
import PaymentDesk.Proofs.Session.Staging

/-!
# The steps of a round

A round shows the menu, asks for a choice, talks to the operator about what the action needs, asks the service, and
reports. `Round` says what its steps are like, **whatever happens in it** (`always_round`):

* the round fails exactly with its last step;
* it shows a document right after the reply that holds it, and ends the line of the document next (`Presents`); and the
  reply is none to a cancellation or a refund (`Discards`);
* it ends the session only after a choice to quit (`EndsByQuitting`), or when there is no line for a choice
  (`EndsWithInput`).
-/

namespace PaymentDesk

open Text

/-! ## Documents -/

/-- A request whose reply is not looked at when it is accepted: a cancellation, or a refund. -/
def Discards (q : Request) : Prop :=
  q.method = .post ∧ ("/cancel".toList <:+ q.path ∨ "/refunds".toList <:+ q.path)

instance : DecidablePred Discards := fun q =>
  inferInstanceAs (Decidable (q.method = .post ∧ ("/cancel".toList <:+ q.path ∨ "/refunds".toList <:+ q.path)))

/-- A document comes right after the reply that holds it, and the end of its line right after it. -/
def Presents (x : List Step) : Prop :=
  ∀ before text result after, x = before ++ .wrote .document text result :: after →
    (∃ earlier q response d, before = earlier ++ [.sent q (.ok response)] ∧ ¬ Discards q ∧ response.json = .ok d ∧
      text = Json.page d) ∧
    (result = .ok () → ∃ result' later, after = .wrote .prose ['\n'] result' :: later)

theorem presents_of_none {x : List Step} (h : ∀ s ∈ x, s.document? = none) : Presents x := by
  rintro before text result after rfl
  have := h (.wrote .document text result) (by simp)
  cases this

theorem Presents.append {x y : List Step} (hx : Presents x) (hy : Presents y) : Presents (x ++ y) := by
  intro before text result after h
  rcases List.append_eq_append_iff.mp h with ⟨m, rfl, hm⟩ | ⟨m, rfl, hm⟩
  · obtain ⟨⟨earlier, q, response, d, rfl, hd⟩, hnext⟩ := hy m text result after hm
    exact ⟨⟨x ++ earlier, q, response, d, by simp, hd⟩, hnext⟩
  · cases m with
    | nil =>
      obtain ⟨⟨earlier, q, response, d, he, -⟩, -⟩ := hy [] text result after hm.symm
      simp at he
    | cons s m =>
      obtain ⟨rfl, rfl⟩ := List.cons.inj hm
      obtain ⟨hd, hnext⟩ := hx before text result m rfl
      refine ⟨hd, fun hr => ?_⟩
      obtain ⟨result', later, rfl⟩ := hnext hr
      exact ⟨result', later ++ y, rfl⟩

/-- A document that is shown as it should be. -/
theorem presents_page {q : Request} {response : Response} {d : Json.Value} (hq : ¬ Discards q)
    (hd : response.json = .ok d) {result : Except Sink.Fault Unit} {x : List Step} (hx : ∀ s ∈ x, s.document? = none)
    (hnext : result = .ok () → ∃ result' later, x = .wrote .prose ['\n'] result' :: later) :
    Presents (.sent q (.ok response) :: .wrote .document (Json.page d) result :: x) := by
  intro before text result' after h
  rcases before with _ | ⟨s, _ | ⟨t, before⟩⟩
  · simp at h
  · simp only [List.cons_append, List.nil_append, List.cons.injEq, Step.wrote.injEq, true_and] at h
    obtain ⟨rfl, ⟨rfl, rfl⟩, rfl⟩ := h
    exact ⟨⟨[], q, response, d, rfl, hq, hd, rfl⟩, hnext⟩
  · simp only [List.cons_append, List.cons.injEq] at h
    obtain ⟨-, -, rfl⟩ := h
    have := hx (.wrote .document text result') (by simp)
    cases this

/-! ## Operations -/

namespace Operation

/-- The outcome of an operation, as far as it can end a session. -/
def settled : Outcome → Except Error Unit
  | .error (.io reason) => .error (.io reason)
  | _ => .ok ()

theorem settled_of_noTerminal {o : Outcome} (h : NoTerminal o) : settled o = .ok () := by
  cases o with
  | ok shown => rfl
  | error err =>
    cases err with
    | io reason => exact absurd rfl (h reason)
    | _ => rfl

/-- The steps of an operation. An error of the terminal is the failure of the last one, and a document to show is held
by the last reply. -/
structure Performed (x : List Step) (o : Outcome) : Prop where
  accounts : Accounts x (settled o)
  document : ∀ s ∈ x, s.document? = none
  shown : ∀ d, o = .ok (some d) → ∃ before q response, x = before ++ [.sent q (.ok response)] ∧ ¬ Discards q ∧
    response.json = .ok d

theorem Performed.prepend {x y : List Step} {o : Outcome} (hx : Unfailing x) (hd : ∀ s ∈ x, s.document? = none)
    (h : Performed y o) : Performed (x ++ y) o where
  accounts := h.accounts.prepend hx
  document := List.forall_mem_append.mpr ⟨hd, h.document⟩
  shown := fun d ho => by
    obtain ⟨before, q, response, rfl, hshown⟩ := h.shown d ho
    exact ⟨x ++ before, q, response, (List.append_assoc ..).symm, hshown⟩

/-- A reply that is an error ends the operation with it. -/
theorem performed_error (q : Request) (err : Error) : Performed [.sent q (.error err)] (.error err) where
  accounts := by
    cases err with
    | io reason => exact failsWith_singleton rfl
    | _ => exact unfailing_cons.mpr ⟨rfl, unfailing_nil⟩
  document := by simp [Step.document?]
  shown := nofun

theorem always_fetch {q : Request} (hq : ¬ Discards q) :
    (fetch q).Always fun x r => ∃ o, r = .ok o ∧ Performed x o := by
  intro reply
  cases reply with
  | error err => exact ⟨.error err, rfl, performed_error q err⟩
  | ok response =>
    refine ⟨response.json.map some, rfl, ?_, by simp [Step.document?], fun d hd => ⟨[], q, response, rfl, hq, ?_⟩⟩
    · rw [settled_of_noTerminal]
      · exact unfailing_cons.mpr ⟨rfl, unfailing_nil⟩
      · intro reason hr
        simp only [Response.json] at hr
        cases hj : Json.parse response.body <;> rw [hj] at hr <;> cases hr
    · cases hj : response.json <;> rw [hj] at hd <;> cases hd
      rfl

theorem not_discards_of_get {q : Request} (h : q.method = .get) : ¬ Discards q := by
  rintro ⟨hpost, -⟩
  rw [h] at hpost
  cases hpost

theorem not_discards_creation (style : ReferenceStyle) (second : Int) : ¬ Discards (creationRequest style second) := by
  rintro ⟨-, h | h⟩ <;> exact absurd (List.suffix_nil.mp h) (by decide)

/-- **The steps of every operation.** -/
theorem always_perform (v : Variant) (op : Operation) :
    (op.perform v).Always fun x r => ∃ o, r = .ok o ∧ Performed x o := by
  cases op with
  | list => exact always_fetch (not_discards_of_get rfl)
  | get id => exact always_fetch (not_discards_of_get rfl)
  | create => exact fun second => always_fetch (not_discards_creation _ second)
  | createAt second => exact always_fetch (not_discards_creation _ second)
  | search c => exact always_fetch (not_discards_of_get rfl)
  | cancel id =>
    intro reply
    cases reply with
    | error err => exact ⟨.error err, rfl, performed_error _ err⟩
    | ok response =>
      let accepted : List Step := [.sent (cancelRequest id) (.ok response),
        .noted ⟨.info, .operations, "cancel accepted for payment ".toList ++ id⟩]
      have unfailing : Unfailing accepted := by simp [accepted, Unfailing, Step.failure?]
      show (fetch (.get id)).Always fun x r => ∃ o, r = .ok o ∧ Performed (accepted ++ x) o
      refine (always_fetch (not_discards_of_get rfl)).mono fun x r h => ?_
      obtain ⟨o, rfl, ho⟩ := h
      exact ⟨o, rfl, ho.prepend unfailing (by simp [accepted, Step.document?])⟩
  | refund reference =>
    intro reply
    cases reply with
    | error err => exact ⟨.error err, rfl, performed_error _ err⟩
    | ok response =>
      refine ⟨.ok none, rfl, ?_, by simp [Step.document?], fun d hd => by cases hd⟩
      simp [settled, Accounts, Unfailing, Step.failure?]

end Operation

namespace Session

open Operation (Performed settled)

/-! ## Questions -/

theorem talk_ask (label : List Char) : (ask label).Talk fun _ => True := by
  refine ⟨rfl, fun line => ?_⟩
  cases line with
  | none => exact ⟨rfl, trivial⟩
  | some l => exact trivial

theorem talk_require (label : List Char) : (require label).Talk NoTerminal :=
  (talk_ask label).bind fun answer _ => noTerminal_identifier label answer

theorem talk_optional (label : List Char) : (optional label).Talk fun _ => True :=
  (talk_ask _).bind fun answer _ => by rcases answer with _ | _ | ⟨c, s⟩ <;> exact trivial

theorem noTerminal_map {α β : Type} (f : α → β) {r : Except Error α} (h : NoTerminal r) : NoTerminal (r.map f) := by
  intro reason hr
  cases r with
  | ok a => cases hr
  | error err => cases hr; exact h reason rfl

theorem talk_askCriteria : askCriteria.Talk NoTerminal := by
  refine (talk_optional _).bind fun answer _ => ?_
  cases ha : amount answer with
  | error err =>
    exact fun reason hr => noTerminal_amount answer reason (by cases hr; exact ha)
  | ok n =>
    exact (talk_optional _).bind fun _ _ => (talk_optional _).bind fun _ _ => (talk_optional _).bind fun _ _ =>
      (talk_optional _).bind fun _ _ => (talk_optional _).bind fun _ _ => nofun

/-- What an action needs is found out by talking, and a refusal is no error of the terminal. -/
theorem talk_order (v : Variant) (a : Action) : (order v a).Talk NoTerminal := by
  have required (label : List Char) (op : List Char → Operation) :
      (require label >>= fun r => pure (r.map (some ∘ op)) : Dialogue _).Talk NoTerminal :=
    (talk_require label).bind fun _ hr => noTerminal_map _ hr
  cases a with
  | get => exact required _ _
  | cancel => exact required _ _
  | refund => exact required _ _
  | search => exact talk_askCriteria.bind fun _ hr => noTerminal_map _ hr
  | _ => exact nofun

/-! ## Choices -/

/-- The menu, and the question for a choice. -/
def choose (v : Variant) : Dialogue (Option (List Char)) := do
  Dialogue.say (menuText v)
  ask "Choice".toList

theorem round_eq_choose (v : Variant) : round v = choose v >>= follow v := rfl

/-- The last step is a line that chooses to quit. -/
def EndsByQuitting (v : Variant) (x : List Step) : Prop :=
  ∃ before bytes l, x = before ++ [.read (some bytes)] ∧ Utf8.decode? bytes = some l ∧
    v.actionFor (trim l) = some .quit

/-- The last steps are that there is no line left, and the end of the line of the question. -/
def EndsWithInput (x : List Step) : Prop := ∃ before, x = before ++ [.read none, .wrote .prose ['\n'] (.ok ())]

theorem EndsByQuitting.prepend {v : Variant} {y : List Step} (x : List Step) (h : EndsByQuitting v y) :
    EndsByQuitting v (x ++ y) := by
  obtain ⟨before, bytes, l, rfl, hl⟩ := h
  exact ⟨x ++ before, bytes, l, (List.append_assoc ..).symm, hl⟩

theorem EndsWithInput.prepend {y : List Step} (x : List Step) (h : EndsWithInput y) : EndsWithInput (x ++ y) := by
  obtain ⟨before, rfl⟩ := h
  exact ⟨x ++ before, (List.append_assoc ..).symm⟩

/-- The menu comes first. -/
def Opens (v : Variant) (x : List Step) : Prop := ∃ result rest, x = .wrote .prose (menuText v) result :: rest

/-- The steps up to the answer to the question for a choice. -/
structure Chosen (v : Variant) (x : List Step) (r : Except Error (Option (List Char))) : Prop where
  talked : Dialogue.Talked (fun _ => True) x r
  opens : Opens v x
  missing : r = .ok none → EndsWithInput x
  given : ∀ c, r = .ok (some c) → ∃ before bytes l, x = before ++ [.read (some bytes)] ∧
    Utf8.decode? bytes = some l ∧ c = trim l

theorem always_choose (v : Variant) : (choose v).Always (Chosen v) := by
  have talk : (choose v).Talk fun _ => True := ⟨rfl, talk_ask _⟩
  have rest : (choose v).Always fun x r => Opens v x ∧ (r = .ok none → EndsWithInput x) ∧
      ∀ c, r = .ok (some c) → ∃ before bytes l, x = before ++ [.read (some bytes)] ∧ Utf8.decode? bytes = some l ∧
        c = trim l := by
    refine ⟨fun f => ?menu, fun f => ?prompt, fun f => ?flush, ⟨fun f => ?lineEnd, ?missing⟩,
      fun bytes hb => ?noText, fun bytes l hl => ?given⟩
    case menu | prompt | flush | lineEnd | noText => exact ⟨⟨_, _, rfl⟩, nofun, nofun⟩
    case missing => exact ⟨⟨_, _, rfl⟩, fun _ => ⟨[_, _, _], rfl⟩, nofun⟩
    case given =>
      refine ⟨⟨_, _, rfl⟩, nofun, fun c hc => ?_⟩
      cases hc
      exact ⟨[_, _, _], bytes, l, rfl, hl, rfl⟩
  exact (talk.always.and rest).mono fun x r h => ⟨h.1, h.2.1, h.2.2.1, h.2.2.2⟩

/-! ## Actions and reports -/

/-- The steps of an action: the questions, and then the operation that was ordered, if one was. -/
structure Acted (x : List Step) (r : Except Error Operation.Outcome) : Prop where
  document : ∀ s ∈ x, s.document? = none
  failed : ∀ err, r = .error err → FailsWith err x
  performed : ∀ o, r = .ok o → Performed x o

/-- **The steps of every action.** -/
theorem always_action (v : Variant) (a : Action) : (perform v a).Always Acted := by
  refine (talk_order v a).always.bind (fun x err h => ⟨h.document, fun _ he => by cases he; exact h.accounts, nofun⟩) ?_
  intro x answer h
  have refused {o : Operation.Outcome} (ho : NoTerminal o) (hshown : ∀ d, o ≠ .ok (some d)) :
      Acted (x ++ []) (.ok o) := by
    rw [List.append_nil]
    refine ⟨h.document, nofun, fun o' ho' => ?_⟩
    cases ho'
    exact ⟨by rw [Operation.settled_of_noTerminal ho]; exact h.accounts, h.document, fun d hd => absurd hd (hshown d)⟩
  rcases answer with err | _ | op
  · refine refused (fun reason hr => ?_) nofun
    cases hr
    exact h.result _ rfl reason rfl
  · exact refused nofun nofun
  · refine (Operation.always_perform v op).mono fun y r hy => ?_
    obtain ⟨o, rfl, ho⟩ := hy
    exact ⟨List.forall_mem_append.mpr ⟨h.document, ho.document⟩, nofun, fun o' ho' => by
      cases ho'
      exact ho.prepend h.accounts h.document⟩

/-- What is said of a failed action. -/
def diagnostic (err : Error) : List Char := "Error: ".toList ++ err.message ++ ['\n']

/-- **The steps of every report.** The operation that is reported took the steps before. -/
theorem always_report (a : Action) {x : List Step} {o : Operation.Outcome} (h : Performed x o) :
    (report a o).Always fun y r => Accounts (x ++ y) r ∧ Presents (x ++ y) := by
  have presents := presents_of_none h.document
  rcases o with err | _ | d
  · cases err with
    | io reason => exact ⟨by rw [List.append_nil]; exact h.accounts, by rw [List.append_nil]; exact presents⟩
    | _ =>
      have said {result : Except Sink.Fault Unit} {record : Log.Record} {text : List Char} :
          Presents (x ++ [.noted record, .wrote .prose text result]) :=
        presents.append (presents_of_none (by simp [Step.document?]))
      refine ⟨fun f => ⟨?_, said⟩, ?_, said⟩
      · refine Accounts.prepend h.accounts (.cons rfl ?_)
        exact failsWith_singleton rfl
      · refine Accounts.prepend h.accounts (.cons rfl (.cons rfl ?_))
        exact unfailing_nil
  · exact ⟨by rw [List.append_nil]; exact h.accounts, by rw [List.append_nil]; exact presents⟩
  · obtain ⟨before, q, response, rfl, hq, hd⟩ := h.shown d rfl
    have shown {result : Except Sink.Fault Unit} {y : List Step} (hy : ∀ s ∈ y, s.document? = none)
        (hnext : result = .ok () → ∃ result' later, y = .wrote .prose ['\n'] result' :: later) :
        Presents (before ++ [.sent q (.ok response)] ++ .wrote .document (Json.page d) result :: y) := by
      rw [List.append_assoc]
      exact (presents_of_none fun s hs => h.document s (List.mem_append_left _ hs)).append (presents_page hq hd hy hnext)
    have accounts {y : List Step} {r : Except Error Unit} (hy : Accounts y r) :
        Accounts (before ++ [.sent q (.ok response)] ++ y) r := Accounts.prepend h.accounts hy
    refine ⟨fun f => ?document, fun f => ?lineEnd, fun f => ?flush, ?flushed⟩
    case document => exact ⟨accounts (failsWith_singleton rfl), shown nofun nofun⟩
    case lineEnd =>
      refine ⟨accounts (.cons rfl (failsWith_singleton rfl)), shown ?_ fun _ => ⟨_, _, rfl⟩⟩
      simp [Step.document?]
    case flush =>
      refine ⟨accounts (.cons rfl (.cons rfl (failsWith_singleton rfl))), shown ?_ fun _ => ⟨_, _, rfl⟩⟩
      simp [Step.document?]
    case flushed =>
      refine ⟨accounts (.cons rfl (.cons rfl (.cons rfl unfailing_nil))), shown ?_ fun _ => ⟨_, _, rfl⟩⟩
      simp [Step.document?]

/-! ## Rounds -/

/-- The steps of a round. -/
structure Round (v : Variant) (x : List Step) (r : Except Error Turn) : Prop where
  opens : Opens v x
  accounts : Accounts x r
  presents : Presents x
  ends : r = .ok .over → EndsByQuitting v x ∨ EndsWithInput x

/-- **The steps of every round.** -/
theorem always_round (v : Variant) : (round v).Always (Round v) := by
  rw [round_eq_choose]
  refine (always_choose v).bind (fun x err h => ⟨h.opens, h.talked.accounts, presents_of_none h.talked.document, fun he => by cases he⟩) ?_
  intro x answer h
  have goesOn {y : List Step} {r : Except Error Turn} (hy : Accounts y r) (hp : Presents y)
      (hr : r ≠ .ok .over) : Round v (x ++ y) r := by
    obtain ⟨result, rest, rfl⟩ := h.opens
    exact ⟨⟨result, rest ++ y, rfl⟩, .prepend h.talked.accounts hy,
      (presents_of_none h.talked.document).append hp, fun he => absurd he hr⟩
  have ended (hx : EndsByQuitting v x ∨ EndsWithInput x) : Round v (x ++ []) (.ok .over) := by
    rw [List.append_nil]
    exact ⟨h.opens, h.talked.accounts, presents_of_none h.talked.document, fun _ => hx⟩
  cases answer with
  | none => exact ended (.inr (h.missing rfl))
  | some c =>
    rw [follow]
    cases ha : v.actionFor c with
    | none => exact goesOn (.cons rfl unfailing_nil) (presents_of_none (by simp [Step.document?])) (by simp)
    | some a =>
      have acts : (perform v a >>= fun o => report a o >>= fun _ => pure Turn.again).Always
          fun y r => Round v (x ++ y) r := by
        refine (always_action v a).bind
          (fun y err hy => goesOn (hy.failed err rfl) (presents_of_none hy.document) (by simp)) ?_
        intro y o hy
        refine (always_report a (hy.performed o rfl)).bind (fun z err hz => goesOn hz.1 hz.2 (by simp)) ?_
        intro z _ hz
        show Round v (x ++ (y ++ (z ++ []))) _
        rw [List.append_nil]
        exact goesOn hz.1 hz.2 (by simp)
      cases a with
      | quit =>
        obtain ⟨before, bytes, l, hx, hl, rfl⟩ := h.given c rfl
        exact ended (.inl ⟨before, bytes, l, hx, hl, ha⟩)
      | _ => exact acts

end Session

end PaymentDesk
