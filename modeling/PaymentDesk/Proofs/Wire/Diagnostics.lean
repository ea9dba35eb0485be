import PaymentDesk.Proofs.Dialogue.Replies
import PaymentDesk.Proofs.Session.Failure
import PaymentDesk.Proofs.Session.Identifier
import PaymentDesk.Proofs.Wire.Messages
import PaymentDesk.Proofs.Wire.Once

/-!
# One line for each failure

A session tells of a failed action in one line, and records it once. Over a network an action may fail for many reasons,
and the wording of most quotes a text that somebody else wrote: what the operator entered (`Session.unbroken_refusal`),
an address, a body, or the place of a fault in a document (`Wire.unbroken_send`, `Response.unbroken_json`). Each of
these texts is in one line. **So whatever is entered and whatever the server does, what a session adds for an action is
one line if it failed, and what it asked for if not** (`told_once`).
-/

namespace PaymentDesk

open Text

/-! ## Operations -/

namespace Operation

/-- The identifier that an operation names. -/
def named : Operation → List Char
  | .get id => id
  | .cancel id => id
  | .refund reference => reference
  | _ => []

/-- An operation with nothing to show. -/
def isRefund : Operation → Bool
  | .refund _ => true
  | _ => false

/-- The steps of an operation: the paths that it asks for are in one line, what it notes is no warning, if it comes to
an error, a reply or a document was one, and it shows nothing only if it is a refund. -/
structure Traced (op : Operation) (x : List Step) (o : Outcome) : Prop where
  paths : ∀ q reply, .sent q reply ∈ x → Unbroken q.path
  noted : ∀ record, .noted record ∈ x → record.level ≠ .warn
  failed : ∀ err, o = .error err → (∃ q, .sent q (.error err) ∈ x) ∨ ∃ response : Response, response.json = .error err
  shows : ∀ shown, o = .ok shown → (shown = none ↔ op.isRefund = true)

variable {op : Operation}

theorem Traced.prepend {x y : List Step} {o : Outcome} (paths : ∀ q reply, .sent q reply ∈ x → Unbroken q.path)
    (noted : ∀ record, .noted record ∈ x → record.level ≠ .warn) (h : Traced op y o) : Traced op (x ++ y) o where
  paths := fun q reply hq => (List.mem_append.mp hq).elim (paths q reply) (h.paths q reply)
  noted := fun record hr => (List.mem_append.mp hr).elim (noted record) (h.noted record)
  failed := fun err ho => (h.failed err ho).imp_left fun ⟨q, hq⟩ => ⟨q, List.mem_append_right x hq⟩
  shows := h.shows

/-- A reply that is an error ends the operation with it. -/
theorem traced_error {q : Request} (hq : Unbroken q.path) (err : Error) :
    Traced op [.sent q (.error err)] (.error err) where
  paths := fun q' reply h => by
    cases List.mem_singleton.mp h
    exact hq
  noted := fun record h => by cases List.mem_singleton.mp h
  failed := fun err' h => by
    cases h
    exact .inl ⟨q, List.mem_cons_self⟩
  shows := fun document h => by cases h

theorem traced_fetch {q : Request} (hq : Unbroken q.path) (hop : op.isRefund = false) :
    (fetch q).Always fun x r => ∃ o, r = .ok o ∧ Traced op x o := by
  intro reply
  cases reply with
  | error err => exact ⟨.error err, rfl, traced_error hq err⟩
  | ok response =>
    refine ⟨response.json.map some, rfl, ?paths, ?noted, ?failed, ?shows⟩
    case paths =>
      intro q' reply h
      cases List.mem_singleton.mp h
      exact hq
    case noted =>
      intro record h
      cases List.mem_singleton.mp h
    case failed =>
      intro err h
      cases hj : response.json with
      | error err' =>
        rw [hj] at h
        cases h
        exact .inr ⟨response, hj⟩
      | ok d =>
        rw [hj] at h
        cases h
    case shows =>
      intro shown h
      rw [hop]
      cases hj : response.json with
      | error err' =>
        rw [hj] at h
        cases h
      | ok d =>
        rw [hj] at h
        cases h
        exact iff_of_false (Option.some_ne_none d) Bool.false_ne_true

/-- The steps of a request whose reply is not looked at. -/
def accepted (q : Request) (response : Response) (text : List Char) : List Step :=
  [.sent q (.ok response), .noted ⟨.info, .operations, text⟩]

theorem traced_accepted {q : Request} (hq : Unbroken q.path) (response : Response) (text : List Char) :
    (∀ q' reply, .sent q' reply ∈ accepted q response text → Unbroken q'.path) ∧
      ∀ record, .noted record ∈ accepted q response text → record.level ≠ .warn := by
  constructor
  · intro q' reply h
    rcases List.mem_cons.mp h with h | h
    · cases h
      exact hq
    · cases List.mem_singleton.mp h
  · intro record h
    rcases List.mem_cons.mp h with h | h
    · cases h
    · cases List.mem_singleton.mp h
      exact fun h => by cases h

/-- **The steps of an operation** whose identifier is in one line. -/
theorem traced_perform (v : Variant) (op : Operation) (hop : Unbroken op.named) :
    (op.perform v).Always fun x r => ∃ o, r = .ok o ∧ Traced op x o := by
  cases op with
  | list => exact traced_fetch unbroken_nil rfl
  | get id => exact traced_fetch hop rfl
  | create => exact fun second => traced_fetch unbroken_nil rfl
  | createAt second => exact traced_fetch unbroken_nil rfl
  | search c => exact traced_fetch unbroken_nil rfl
  | cancel id =>
    have hpath : Unbroken (cancelRequest id).path := .append hop (by decide)
    intro reply
    cases reply with
    | error err => exact ⟨.error err, rfl, traced_error hpath err⟩
    | ok response =>
      let before := accepted (cancelRequest id) response ("cancel accepted for payment ".toList ++ id)
      obtain ⟨paths, noted⟩ := traced_accepted hpath response ("cancel accepted for payment ".toList ++ id)
      have hfetch : (fetch (.get id)).Always fun x r => ∃ o, r = .ok o ∧ Traced (.cancel id) x o :=
        traced_fetch (q := .get id) hop rfl
      show (fetch (.get id)).Always fun x r => ∃ o, r = .ok o ∧ Traced (.cancel id) (before ++ x) o
      refine hfetch.mono fun x r h => ?_
      obtain ⟨o, rfl, traced⟩ := h
      exact ⟨o, rfl, traced.prepend paths noted⟩
  | refund reference =>
    have hpath : Unbroken (refundRequest reference).path := .append hop (by decide)
    intro reply
    cases reply with
    | error err => exact ⟨.error err, rfl, traced_error hpath err⟩
    | ok response =>
      obtain ⟨paths, noted⟩ := traced_accepted hpath response ("refund accepted for ".toList ++ reference)
      refine ⟨.ok none, rfl, paths, noted, ?_, ?_⟩
      · intro err h
        cases h
      · intro shown h
        cases h
        exact iff_of_true rfl rfl

/-- **What an operation comes to over a network.** It ends, records no warning, and its error is told in one line. -/
theorem run_wire (x : Wire) (clock : Nat → Int) (v : Variant) (op : Operation) (hop : Unbroken op.named) (ticks : Nat)
    (n : Network) : ∃ o records ticks' n', NoTerminal o ∧ (∀ record ∈ records, record.level ≠ .warn) ∧
      (∀ err, o = .error err → Unbroken err.message) ∧ (∀ shown, o = .ok shown → (shown = none ↔ op.isRefund = true)) ∧
      ∀ w : World Network, w.ticks = ticks → w.transport = n → (op.perform v).run ⟨x.transport, clock⟩ w =
        (.ok o, { w with log := w.log ++ records, ticks := ticks', transport := n' }) := by
  let e : Setting Network := ⟨x.transport, clock⟩
  have he : Dialogue.Answers e (fun _ => True) NoTerminal := fun r n _ => ⟨x.noTerminal_send r n, trivial⟩
  obtain ⟨o, records, ticks', n', ho, -, hrun⟩ := (silent_perform v op).run he ticks n trivial
  let w : World Network := { ticks, transport := n }
  have hw := hrun w rfl rfl
  obtain ⟨o', ho', traced⟩ := (traced_perform v op hop).run e w
  rw [hw] at ho'
  obtain rfl := Except.ok.inj ho'
  refine ⟨o, records, ticks', n', ho, ?_, ?_, traced.shows, hrun⟩
  · obtain ⟨records', hlog, hall⟩ := Dialogue.log_of_steps (R := fun record => record.level ≠ .warn)
      (fun q s => x.level_of_send q s) traced.noted
    rw [hw] at hlog
    have hsame : records = records' := (List.append_right_inj w.log).mp hlog
    rw [hsame]
    exact hall
  · intro err herr
    rcases traced.failed err herr with ⟨q, hq⟩ | ⟨response, hresponse⟩
    · obtain ⟨s, -, hs⟩ := Dialogue.sent_of_steps (I := fun _ => True) (fun _ _ _ => trivial) hq trivial
      exact x.unbroken_send (traced.paths q _ hq) s hs
    · exact Response.unbroken_json hresponse

end Operation

namespace Session

/-! ## Refusals -/

section Refusals

variable {v : Variant} {ls : List (List Char)} {a : Action} {i : Interview} {err : Error}

theorem unbroken_identifier {label : List Char} (hlabel : Unbroken label) {answer : Option (List Char)}
    (hanswer : ∀ s, answer = some s → Unbroken s) (h : identifier label answer = .error err) :
    Unbroken err.message := by
  cases answer with
  | none =>
    cases h
    exact .append (by decide) (.append (by decide) hlabel)
  | some s =>
    cases s with
    | nil =>
      cases h
      exact .append (by decide) (.append hlabel (by decide))
    | cons c s =>
      simp only [identifier] at h
      split at h
      · cases h
      · cases h
        have hquoted : Unbroken (label ++ " '".toList ++ (c :: s)) :=
          .append (.append hlabel (by decide)) (hanswer _ rfl)
        exact .append (by decide) (hquoted.append (by decide))

theorem unbroken_amount {answer : Option (List Char)} (hanswer : ∀ s, answer = some s → Unbroken s)
    (h : amount answer = .error err) : Unbroken err.message := by
  cases answer with
  | none => cases h
  | some s =>
    simp only [amount] at h
    split at h
    · cases h
    · cases h
      have hquoted : Unbroken ("amount '".toList ++ s) := .append (by decide) (hanswer s rfl)
      exact .append (by decide) (hquoted.append (by decide))

variable (hls : ∀ l ∈ ls, Unbroken (trim l)) (hi : interview v ls a = some i)

include hls in
theorem unbroken_answer (k : Nat) {s : List Char} (h : answer ls k = some s) : Unbroken s := by
  obtain ⟨l, hl, rfl⟩ := Option.map_eq_some_iff.mp h
  exact hls l (List.mem_of_getElem? hl)

include hls in
theorem unbroken_of_identify {label : List Char} (hlabel : Unbroken label) (op : List Char → Operation)
    (ho : (identify label op ls).order = .error err) : Unbroken err.message := by
  cases hid : identifier label (answer ls 0) with
  | ok id =>
    rw [identify, hid] at ho
    cases ho
  | error err' =>
    rw [identify, hid] at ho
    cases ho
    exact unbroken_identifier hlabel (fun _ => unbroken_answer hls 0) hid

include hls hi in
/-- **A refusal is told in one line**, since what was entered is one. -/
theorem unbroken_refusal (ho : i.order = .error err) : Unbroken err.message := by
  cases a with
  | quit => cases hi
  | list =>
    cases hi
    cases ho
  | create =>
    cases hi
    cases ho
  | get =>
    cases hi
    exact unbroken_of_identify hls (by decide) .get ho
  | cancel =>
    cases hi
    exact unbroken_of_identify hls (by decide) .cancel ho
  | refund =>
    cases hi
    exact unbroken_of_identify hls (by cases v <;> decide) .refund ho
  | search =>
    simp only [interview, Option.some.injEq] at hi
    subst hi
    cases hamount : amount (given ls 0) with
    | ok n =>
      rw [hamount] at ho
      cases ho
    | error err' =>
      rw [hamount] at ho
      cases ho
      exact unbroken_amount (fun s hs => unbroken_answer hls 0 (Option.filter_eq_some_iff.mp hs).1) hamount

/-- An identifier is in one line. -/
theorem of_identify {label : List Char} {op : Operation} (make : List Char → Operation)
    (ho : (identify label make ls).order = .ok op) : ∃ id, Unbroken id ∧ op = make id := by
  cases hid : identifier label (answer ls 0) with
  | error err =>
    rw [identify, hid] at ho
    cases ho
  | ok id =>
    rw [identify, hid] at ho
    cases ho
    refine ⟨id, unbroken_of_forall ?_, rfl⟩
    rintro c hc rfl
    cases hline : answer ls 0 with
    | none =>
      rw [hline] at hid
      cases hid
    | some s =>
      rw [hline] at hid
      cases (free_of_identifier hid '\n' hc).2.2.2

include hi in
/-- Operations name what is in one line, and only who asks for a refund gets one. -/
theorem of_order {op : Operation} (ho : i.order = .ok op) :
    Unbroken op.named ∧ (op.isRefund = true ↔ a = .refund) := by
  cases a with
  | quit => cases hi
  | list =>
    cases hi
    cases ho
    exact ⟨unbroken_nil, iff_of_false Bool.false_ne_true (by decide)⟩
  | create =>
    cases hi
    cases ho
    exact ⟨unbroken_nil, iff_of_false Bool.false_ne_true (by decide)⟩
  | get =>
    cases hi
    obtain ⟨id, hid, rfl⟩ := of_identify .get ho
    exact ⟨hid, iff_of_false Bool.false_ne_true (by decide)⟩
  | cancel =>
    cases hi
    obtain ⟨id, hid, rfl⟩ := of_identify .cancel ho
    exact ⟨hid, iff_of_false Bool.false_ne_true (by decide)⟩
  | refund =>
    cases hi
    obtain ⟨id, hid, rfl⟩ := of_identify .refund ho
    exact ⟨hid, iff_of_true rfl rfl⟩
  | search =>
    simp only [interview, Option.some.injEq] at hi
    subst hi
    cases hamount : amount (given ls 0) with
    | error err =>
      rw [hamount] at ho
      cases ho
    | ok n =>
      rw [hamount] at ho
      cases ho
      exact ⟨unbroken_nil, iff_of_false Bool.false_ne_true (by decide)⟩

end Refusals

/-! ## Rounds -/

/-- What is shown and recorded of an action that came to `o`, from the choice of it to the end of the round: the
questions and no warning until it came to that, and then what it came to, the error in one line. Nothing is shown of a
refund alone. -/
structure Told (v : Variant) (a : Action) (w₁ w₂ w₃ : World Network) (o : Operation.Outcome) : Prop where
  asked : ∃ ls i, w₁.input = ls.map Utf8.encode ∧ interview v ls a = some i ∧
    w₂.sink.stored = w₁.sink.stored ++ Utf8.encode (prompts i.labels ls)
  quiet : ∃ records, w₂.log = w₁.log ++ records ∧ ∀ record ∈ records, record.level ≠ .warn
  shown : w₃.sink.stored = w₂.sink.stored ++ Utf8.encode (exhibit o)
  recorded : w₃.log = w₂.log ++ complaints a o
  unbroken : ∀ err, o = .error err → Unbroken err.message
  nothing : ∀ document, o = .ok document → (document = none ↔ a = .refund)

section Rounds

variable (x : Wire) (clock : Nat → Int) {v : Variant} {w w' : World Network} {ls : List (List Char)}

theorem run_choose {σ : Type} {e : Setting σ} {w : World σ} (h : Sound w ls) :
    (choose v).run e w = (.ok (answer ls 0), opened v ls w) := by
  rw [choose, Dialogue.run_bind, Dialogue.run_say h.sink]
  exact run_ask (h.shown _ _) _

/-- An action comes to an outcome, and its questions are all that is shown until then. -/
theorem run_perform_wire (h : Sound w ls) (hls : ∀ l ∈ ls, Unbroken (trim l)) {a : Action} {i : Interview}
    (hi : interview v ls a = some i) : ∃ o records ticks n, NoTerminal o ∧
      (∀ record ∈ records, record.level ≠ .warn) ∧ (∀ err, o = .error err → Unbroken err.message) ∧
      (∀ document, o = .ok document → (document = none ↔ a = .refund)) ∧
      (perform v a).run ⟨x.transport, clock⟩ w =
        (.ok o, { asked i.labels ls w with log := w.log ++ records, ticks := ticks, transport := n }) := by
  cases ho : i.order with
  | error err =>
    refine ⟨.error err, [], w.ticks, w.transport, noTerminal_of_order hi ho, List.forall_mem_nil _, ?_, ?_, ?_⟩
    · intro err' herr
      cases herr
      exact unbroken_refusal hls hi ho
    · intro document h
      cases h
    · rw [run_perform_refused h hi ho, List.append_nil]
      rfl
  | ok op =>
    obtain ⟨hnamed, hrefund⟩ := of_order hi ho
    obtain ⟨o, records, ticks, n, hno, hlevel, hunbroken, hshows, hrun⟩ :=
      Operation.run_wire x clock v op hnamed w.ticks w.transport
    refine ⟨o, records, ticks, n, hno, hlevel, hunbroken, ?_, ?_⟩
    · intro document hok
      rw [hshows document hok, hrefund]
    · rw [run_perform_ordered h hi ho, hrun (asked i.labels ls w) rfl rfl]
      rfl

/-- **A round tells of the action in it.** -/
theorem told_of_round {l : List Char} (h : Sound w (l :: ls)) (hls : ∀ m ∈ ls, Unbroken (trim m)) {a : Action}
    (ha : v.actionFor (trim l) = some a) {i : Interview} (hi : interview v ls a = some i) : ∃ o w₂ w₃,
      (perform v a).run ⟨x.transport, clock⟩ (opened v (l :: ls) w) = (.ok o, w₂) ∧
      (round v).run ⟨x.transport, clock⟩ w = (.ok .again, w₃) ∧ Sound w₃ (ls.drop i.labels.length) ∧
      Told v a (opened v (l :: ls) w) w₂ w₃ o := by
  obtain ⟨o, records, ticks, n, hno, hlevel, hunbroken, hnothing, hperform⟩ :=
    run_perform_wire x clock h.opened hls hi
  obtain ⟨k, hround⟩ := round_action h ha hi hno hperform
  refine ⟨o, _, _, hperform, hround, h.passed _ k _ _ ticks n, ⟨ls, i, rfl, hi, rfl⟩, ⟨records, rfl, hlevel⟩, ?shown,
    ?recorded, hunbroken, hnothing⟩
  case shown =>
    simp [passed, opened, Session.asked, opening, prompts, World.shown, Sink.after, Utf8.encode_append]
  case recorded => exact (List.append_assoc ..).symm

/-- Between two rounds the terminal stays sound, and the lines that are left are the last of those that were. -/
theorem sound_of_round (h : Sound w ls) (hls : ∀ l ∈ ls, Unbroken (trim l))
    (hr : (round v).run ⟨x.transport, clock⟩ w = (.ok .again, w')) : ∃ left, Sound w' left ∧ left <:+ ls := by
  cases ls with
  | nil =>
    obtain ⟨n, hover⟩ := round_over_of_nil (e := ⟨x.transport, clock⟩) (v := v) h
    rw [hr] at hover
    cases hover
  | cons l r =>
    cases ha : v.actionFor (trim l) with
    | none =>
      obtain ⟨log, n, hignored⟩ := round_ignore (e := ⟨x.transport, clock⟩) h ha
      rw [hr] at hignored
      cases hignored
      exact ⟨r, h.passed _ n r log _ _, List.suffix_cons l r⟩
    | some a =>
      cases hi : interview v r a with
      | none =>
        obtain ⟨n, hover⟩ := round_over_of_quit (e := ⟨x.transport, clock⟩) h ha hi
        rw [hr] at hover
        cases hover
      | some i =>
        obtain ⟨o, w₂, w₃, -, hagain, sound, -⟩ :=
          told_of_round x clock h (fun m hm => hls m (List.mem_cons_of_mem l hm)) ha hi
        rw [hr] at hagain
        cases hagain
        exact ⟨_, sound, (List.drop_suffix _ r).trans (List.suffix_cons l r)⟩

theorem sound_of_mem_beginnings (h : Sound w ls) (hls : ∀ l ∈ ls, Unbroken (trim l))
    (hw : w' ∈ beginnings ⟨x.transport, clock⟩ v w) : ∃ left, Sound w' left ∧ left <:+ ls := by
  induction w using Session.run.induct ⟨x.transport, clock⟩ v generalizing ls with
  | case1 w err w'' hr =>
    rw [beginnings_of_error hr, List.mem_singleton] at hw
    subst hw
    exact ⟨ls, h, List.suffix_refl ls⟩
  | case2 w w'' hr =>
    rw [beginnings_of_over hr, List.mem_singleton] at hw
    subst hw
    exact ⟨ls, h, List.suffix_refl ls⟩
  | case3 w w'' hr ih =>
    rw [beginnings_of_again hr, List.mem_cons] at hw
    rcases hw with rfl | hw
    · exact ⟨ls, h, List.suffix_refl ls⟩
    · obtain ⟨middle, sound, hmiddle⟩ := sound_of_round x clock h hls hr
      obtain ⟨left, hleft, hsuffix⟩ := ih sound (fun l hl => hls l (hmiddle.subset hl)) hw
      exact ⟨left, hleft, hsuffix.trans hmiddle⟩

end Rounds

/-! ## Sessions -/

theorem mem_beginnings_self {σ : Type} (e : Setting σ) (v : Variant) (w : World σ) : w ∈ beginnings e v w := by
  rw [beginnings]
  exact List.mem_cons_self

/-- After a round that goes on the next one begins. -/
theorem mem_beginnings_of_again {σ : Type} {e : Setting σ} {v : Variant} {w w' w'' : World σ}
    (hw : w' ∈ beginnings e v w) (h : (round v).run e w' = (.ok .again, w'')) : w'' ∈ beginnings e v w := by
  induction w using Session.run.induct e v with
  | case1 w err w₁ hr =>
    rw [beginnings_of_error hr, List.mem_singleton] at hw
    subst hw
    rw [h] at hr
    cases hr
  | case2 w w₁ hr =>
    rw [beginnings_of_over hr, List.mem_singleton] at hw
    subst hw
    rw [h] at hr
    cases hr
  | case3 w w₁ hr ih =>
    rw [beginnings_of_again hr, List.mem_cons] at hw ⊢
    rcases hw with rfl | hw
    · rw [h] at hr
      cases hr
      exact .inr (mem_beginnings_self e v w'')
    · exact .inr (ih hw)

/-- **One line for each failure.** In a session on a text, at a sound terminal, every action comes to an outcome, the
session goes on with the next menu, and in between it is told what the action came to. -/
theorem told_once (x : Wire) (clock : Nat → Int) (v : Variant) {w : World Network} {bytes : List UInt8}
    (utf8 : (Utf8.decode? bytes).isSome = true) (input : w.input = byteLines bytes) (sink : w.sink.Boundless) :
    let e : Setting Network := ⟨x.transport, clock⟩
    (run e v w).1 = .ok () ∧ ∀ w' ∈ beginnings e v w, ∀ choice w₁ a,
      (choose v).run e w' = (.ok (some choice), w₁) → v.actionFor choice = some a → a ≠ .quit →
        w₁.log = w'.log ∧ ∃ o w₂ w₃, (perform v a).run e w₁ = (.ok o, w₂) ∧
          (round v).run e w' = (.ok .again, w₃) ∧ w₃ ∈ beginnings e v w ∧ Told v a w₁ w₂ w₃ o := by
  intro e
  have he : Dialogue.Answers e (fun _ => True) NoTerminal := fun r n _ => ⟨x.noTerminal_send r n, trivial⟩
  refine ⟨run_eq_ok he trivial v sink input utf8, ?_⟩
  intro w' hw choice w₁ a hchoose ha hq
  obtain ⟨text, htext⟩ := Option.isSome_iff_exists.mp utf8
  have sound : Sound w (lines text) :=
    ⟨by rw [input, Utf8.decode?_eq_some_iff.mp htext, Utf8.byteLines_encode], sink⟩
  have hlines : ∀ l ∈ lines text, Unbroken (trim l) := fun l hl => lineEnd_not_mem_trim hl
  obtain ⟨left, hleft, hsuffix⟩ := sound_of_mem_beginnings x clock sound hlines hw
  rw [run_choose hleft] at hchoose
  cases left with
  | nil => cases hchoose
  | cons l r =>
    cases hchoose
    have hr : ∀ m ∈ r, Unbroken (trim m) := fun m hm => hlines m (hsuffix.subset (List.mem_cons_of_mem l hm))
    obtain ⟨i, hi⟩ : ∃ i, interview v r a = some i := by
      cases a with
      | quit => exact absurd rfl hq
      | _ => exact ⟨_, rfl⟩
    obtain ⟨o, w₂, w₃, hperform, hround, -, told⟩ := told_of_round x clock hleft hr ha hi
    exact ⟨rfl, o, w₂, w₃, hperform, hround, mem_beginnings_of_again hw hround, told⟩

/-- A body in several lines comes to one line. -/
theorem told_once_lines :
    let e : Setting Network := ⟨(Wire.mk {} fun _ => true).transport, fun _ => 0⟩
    let w : World Network := {
      input := byteLines (Utf8.encode "1\np1\nq\n".toList)
      transport := { script := [.reply 500 [] (Utf8.encode "bad\r\n\tgateway\n".toList)] } }
    (run e .current w).1 = .ok () ∧ ∃ w₁ w₂ w₃, (choose .current).run e w = (.ok (some "1".toList), w₁) ∧
      (perform .current .get).run e w₁ = (.ok (.error (.status 500 "bad gateway".toList)), w₂) ∧
      Told .current .get w₁ w₂ w₃ (.error (.status 500 "bad gateway".toList)) := by
  intro e w
  have utf8 : (Utf8.decode? (Utf8.encode "1\np1\nq\n".toList)).isSome = true := by rw [Utf8.decode?_encode]; rfl
  obtain ⟨hok, hall⟩ := told_once (Wire.mk {} fun _ => true) (fun _ => 0) .current (w := w) utf8 rfl ⟨rfl, rfl⟩
  let ls := ["1\n", "p1\n", "q\n"].map String.toList
  have sound : Sound w ls := ⟨by decide +kernel, rfl, rfl⟩
  have hchoose : (choose .current).run e w = (.ok (some "1".toList), opened .current ls w) := run_choose sound
  obtain ⟨-, o, w₂, w₃, hperform, -, -, told⟩ :=
    hall w (mem_beginnings_self e .current w) _ _ .get hchoose (by decide +kernel) (by decide)
  have reply : (e.transport.send (.get "p1".toList) w.transport).1 = .error (.status 500 "bad gateway".toList) := by
    decide +kernel
  have outcome : ((perform .current .get).run e (opened .current ls w)).1 =
      .ok (.error (.status 500 "bad gateway".toList)) := by
    have opened : Sound (opened .current ls w) ["p1\n".toList, "q\n".toList] := sound.opened
    have ordered := run_perform_ordered (e := e) (v := .current) (a := .get)
      (i := ⟨["Payment id".toList], .ok (.get "p1".toList)⟩) opened rfl rfl
    rw [ordered]
    refine (Operation.run_fetch e _ (.get "p1".toList)).1.trans ?_
    exact congrArg (fun r : Reply => Except.ok (r.bind fun response => response.json.map some)) reply
  obtain rfl := Except.ok.inj ((congrArg Prod.fst hperform).symm.trans outcome)
  exact ⟨hok, _, w₂, w₃, hchoose, hperform, told⟩

end Session
end PaymentDesk
