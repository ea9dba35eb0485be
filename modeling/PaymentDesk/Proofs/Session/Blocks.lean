import PaymentDesk.Proofs.Dialogue.Exchange
import PaymentDesk.Proofs.Session.Identifier
import PaymentDesk.Proofs.Session.Loop

/-!
# The requests of a session

Whatever the operator types, the service answers and the terminal takes, the requests of a session come in blocks, and a
block belongs to one operation (`Block`). An identifier in them is a line of the operator that passed the check
(`Named`). In particular a cancellation is followed at once by a fetch of the same payment exactly when it was accepted.

**`run_blocks` says so of every session** over the recording transport, whichever lines are no text, whichever writes
and flushes fail, and whatever the replies are.
-/

namespace PaymentDesk.Session

open Text

/-! ## Identifiers -/

/-- An identifier that the operator gave: a line without the blanks around it, with nothing in it that would end a
segment of a path. -/
structure Named (L : List Char → Prop) (id : List Char) : Prop where
  line : ∃ l, L l ∧ trim l = id
  given : id ≠ []
  free : ∀ c ∈ id, c ≠ '/' ∧ c ≠ '?' ∧ c ≠ '#' ∧ isBlank c = false
  dots : ¬ ['.', '.'] <:+: id

theorem named_of_identifier {L : List Char → Prop} {label l id : List Char} (hl : L l)
    (h : identifier label (some (trim l)) = .ok id) : Named L id where
  line := ⟨l, hl, (of_identifier h).1.symm⟩
  given := ne_nil_of_identifier h
  free := free_of_identifier h
  dots := not_twoDots_of_identifier h

/-! ## Blocks -/

/-- The exchanges of one operation. -/
inductive Block (v : Variant) (L : List Char → Prop) : List Exchange → Prop where
  | list (reply : Reply) (legacy : v = .legacy) : Block v L [(.get [], reply)]
  | creation (second : Int) (reply : Reply) :
    Block v L [(.post [] (Creation.sample v.referenceStyle second).fields.document, reply)]
  | fetch {id : List Char} (named : Named L id) (reply : Reply) : Block v L [(.get id, reply)]
  | cancellation {id : List Char} (named : Named L id) (response : Response) (reply : Reply) :
    Block v L [(.post (id ++ "/cancel".toList) (.object []), .ok response), (.get id, reply)]
  | cancellationFailed {id : List Char} (named : Named L id) (e : Error) :
    Block v L [(.post (id ++ "/cancel".toList) (.object []), .error e)]
  | refund {id : List Char} (named : Named L id) (reply : Reply) :
    Block v L [(.post (id ++ "/refunds".toList) (Refund.fields {}).document, reply)]
  | search (c : Criteria) (reply : Reply) : Block v L [({ Request.get [] with query := c.toQuery }, reply)]

/-- Requests for documents have no body, and only searches have a query. -/
theorem Block.plain {v : Variant} {L : List Char → Prop} {b : List Exchange} (h : Block v L b) :
    ∀ x ∈ b, (x.1.method = .get → x.1.body = none) ∧
      (x.1.query ≠ [] → ∃ c : Criteria, x.1 = { Request.get [] with query := c.toQuery }) := by
  cases h with
  | search c reply =>
    intro x hx
    cases List.mem_singleton.mp hx
    exact ⟨fun _ => rfl, fun _ => ⟨c, rfl⟩⟩
  | _ => simp [Request.get, Request.post]

/-! ## Operations -/

/-- An operation that a session may perform: the list only where the menu has it, and identifiers only as given. -/
def Orderly (v : Variant) (L : List Char → Prop) : Operation → Prop
  | .list => v = .legacy
  | .get id | .cancel id | .refund id => Named L id
  | .create | .createAt _ | .search _ => True

section Dialogues

variable {v : Variant} {L : List Char → Prop}

theorem ensures_fetch {r : Request} (h : ∀ reply, Block v L [(r, reply)]) :
    (Operation.fetch r).Ensures L fun xs _ => Block v L xs := by
  intro reply
  cases reply with
  | error e => exact h (.error e)
  | ok response => exact h (.ok response)

/-- An operation makes the exchanges of one block. -/
theorem ensures_perform {op : Operation} (h : Orderly v L op) : (op.perform v).Ensures L fun xs _ => Block v L xs := by
  cases op with
  | list => exact ensures_fetch (.list · h)
  | get id => exact ensures_fetch (.fetch h ·)
  | create => exact fun second => ensures_fetch (.creation second ·)
  | createAt second => exact ensures_fetch (.creation second ·)
  | cancel id =>
    intro reply
    cases reply with
    | error e => exact .cancellationFailed h e
    | ok response =>
      intro reply'
      cases reply' with
      | error e => exact .cancellation h response (.error e)
      | ok response' => exact .cancellation h response (.ok response')
  | refund id =>
    intro reply
    cases reply with
    | error e => exact .refund h (.error e)
    | ok response => exact .refund h (.ok response)
  | search c => exact ensures_fetch (.search c ·)

/-! ## Questions -/

/-- A question asks nothing of the service, and its answer is a trimmed line. -/
theorem ensures_ask (label : List Char) : (ask label).Ensures L fun xs a =>
    xs = [] ∧ ∀ s, a = some (some s) → ∃ l, L l ∧ trim l = s := by
  refine ⟨⟨rfl, nofun⟩, ⟨rfl, nofun⟩, ⟨rfl, nofun⟩, ?_, fun l hl => ⟨rfl, fun s hs => ⟨l, hl, ?_⟩⟩⟩
  · exact ⟨⟨rfl, nofun⟩, rfl, nofun⟩
  · cases hs
    rfl

theorem ensures_require (label : List Char) : (require label).Ensures L fun xs a =>
    xs = [] ∧ ∀ id, a = some (.ok id) → Named L id := by
  refine (ensures_ask label).bind (fun xs h => ⟨h.1, nofun⟩) ?_
  rintro xs a ⟨rfl, h⟩
  refine ⟨rfl, fun id hid => ?_⟩
  have hid : identifier label a = .ok id := Option.some.inj hid
  cases a with
  | none => cases hid
  | some s =>
    obtain ⟨l, hl, rfl⟩ := h s rfl
    exact named_of_identifier hl hid

theorem ensures_optional (label : List Char) : (optional label).Ensures L fun xs _ => xs = [] := by
  refine (ensures_ask _).bind (fun xs h => h.1) ?_
  rintro xs a ⟨rfl, -⟩
  rcases a with _ | _ | ⟨c, s⟩ <;> exact rfl

theorem ensures_askCriteria : askCriteria.Ensures L fun xs _ => xs = [] := by
  have next {α : Type} (label : List Char) {f : Option (List Char) → Dialogue α}
      (hf : ∀ s, (f s).Ensures L fun xs _ => xs = []) : (optional label >>= f).Ensures L fun xs _ => xs = [] := by
    refine (ensures_optional label).bind (fun xs h => h) ?_
    rintro xs s rfl
    exact hf s
  refine next _ fun s => ?_
  cases amount s with
  | error e => exact rfl
  | ok n => exact next _ fun _ => next _ fun _ => next _ fun _ => next _ fun _ => next _ fun _ => rfl

/-- The questions of an action ask nothing of the service, and what they order is orderly. -/
theorem ensures_order {a : Action} (ha : a = .list → v = .legacy) : (order v a).Ensures L fun xs o =>
    xs = [] ∧ ∀ op, o = some (.ok (some op)) → Orderly v L op := by
  have required (label : List Char) (op : List Char → Operation) (hop : ∀ id, Named L id → Orderly v L (op id)) :
      (require label >>= fun r => pure (r.map (some ∘ op)) : Dialogue _).Ensures L fun xs o =>
        xs = [] ∧ ∀ op, o = some (.ok (some op)) → Orderly v L op := by
    refine (ensures_require label).bind (fun xs h => ⟨h.1, nofun⟩) ?_
    rintro xs r ⟨rfl, h⟩
    refine ⟨rfl, fun op' hop' => ?_⟩
    cases r with
    | error e => cases hop'
    | ok id =>
      cases hop'
      exact hop id (h id rfl)
  cases a with
  | list => exact ⟨rfl, fun op h => by cases h; exact ha rfl⟩
  | get => exact required _ _ fun id h => h
  | create => exact ⟨rfl, fun op h => by cases h; trivial⟩
  | cancel => exact required _ _ fun id h => h
  | refund => exact required _ _ fun id h => h
  | search =>
    refine ensures_askCriteria.bind (fun xs h => ⟨h, nofun⟩) ?_
    rintro xs c rfl
    refine ⟨rfl, fun op h => ?_⟩
    cases c with
    | error e => cases h
    | ok c => cases h; trivial
  | quit => exact ⟨rfl, nofun⟩

/-! ## Rounds -/

/-- At most one block, and nothing else. -/
def AtMostOne (v : Variant) (L : List Char → Prop) (xs : List Exchange) : Prop := xs = [] ∨ Block v L xs

/-- An action asks its questions, and then makes the exchanges of one operation, if it is one. -/
theorem ensures_action {a : Action} (ha : a = .list → v = .legacy) :
    (perform v a).Ensures L fun xs _ => AtMostOne v L xs := by
  refine (ensures_order ha).bind (fun xs h => .inl h.1) ?_
  rintro xs o ⟨rfl, h⟩
  rcases o with e | _ | op
  · exact .inl rfl
  · exact .inl rfl
  · exact (ensures_perform (h op rfl)).mono fun xs _ hb => .inr hb

/-- Reporting asks nothing of the service. -/
theorem ensures_report (a : Action) (o : Operation.Outcome) : (report a o).Ensures L fun xs _ => xs = [] := by
  rcases o with e | _ | d
  · cases e with
    | io reason => exact rfl
    | _ => exact ⟨rfl, rfl⟩
  · exact rfl
  · exact ⟨rfl, rfl, rfl, rfl⟩

theorem legacy_of_actionFor {choice : List Char} (h : v.actionFor choice = some .list) : v = .legacy := by
  cases v with
  | legacy => rfl
  | current =>
    rw [Variant.actionFor] at h
    split at h
    · next c _ =>
      obtain ⟨e, he, hlist⟩ := Option.map_eq_some_iff.mp h
      have := List.mem_of_find?_eq_some he
      simp only [Variant.entries, List.mem_cons, List.not_mem_nil, or_false] at this
      rcases this with rfl | rfl | rfl | rfl | rfl | rfl <;> cases hlist
    · cases h

/-- A round makes the exchanges of at most one block. -/
theorem ensures_round : (round v).Ensures L fun xs _ => AtMostOne v L xs := by
  have follows (answer : Option (List Char)) : (follow v answer).Ensures L fun xs _ => AtMostOne v L xs := by
    cases answer with
    | none => exact .inl rfl
    | some choice =>
      rw [follow]
      cases ha : v.actionFor choice with
      | none => exact .inl rfl
      | some a =>
        have done : (perform v a >>= fun o => report a o >>= fun _ => pure Turn.again).Ensures L
            fun xs _ => AtMostOne v L xs := by
          refine (ensures_action fun hl => legacy_of_actionFor (hl ▸ ha)).bind (fun _ h => h) ?_
          intro xs o h
          refine (ensures_report a o).bind (fun ys hy => by rwa [hy, List.append_nil]) ?_
          rintro ys - rfl
          show AtMostOne v L (xs ++ ([] ++ []))
          rwa [List.append_nil, List.append_nil]
        cases a with
        | quit => exact .inl rfl
        | _ => exact done
  rw [round_eq]
  refine ⟨.inl rfl, (ensures_ask _).bind (fun xs h => .inl h.1) ?_⟩
  rintro xs answer ⟨rfl, -⟩
  exact follows answer

end Dialogues

/-! ## Sessions -/

/-- A line of the input, read as text. -/
def Entered (input : List (List UInt8)) (l : List Char) : Prop := ∃ bytes ∈ input, Utf8.decode? bytes = some l

section Runs

variable (clock : Nat → Int) (v : Variant) {L : List Char → Prop} (w : World Recording)
  (lines : ∀ bytes ∈ w.input, ∀ l, Utf8.decode? bytes = some l → L l)
include lines

/-- What one round asks, and which lines it leaves. -/
theorem exchanged_round : ∃ blocks : List (List Exchange), (∀ b ∈ blocks, Block v L b) ∧
    w.transport.Exchanged blocks.flatten ((round v).run ⟨Recording.transport, clock⟩ w).2.transport ∧
    ((round v).run ⟨Recording.transport, clock⟩ w).2.input <:+ w.input := by
  obtain ⟨xs, rfl | hb, hx, hsuffix⟩ := ensures_round.run (d := round v) clock w lines
  · exact ⟨[], nofun, hx, hsuffix⟩
  · exact ⟨[xs], by simpa using hb, by simpa using hx, hsuffix⟩

/-- What all rounds ask, one after the other. -/
theorem exchanged_run : ∃ blocks : List (List Exchange), (∀ b ∈ blocks, Block v L b) ∧
    w.transport.Exchanged blocks.flatten (run ⟨Recording.transport, clock⟩ v w).2.transport := by
  induction w using Session.run.induct ⟨Recording.transport, clock⟩ v with
  | case1 w err w' h =>
    obtain ⟨blocks, hb, hx, -⟩ := exchanged_round clock v w lines
    rw [h] at hx
    rw [run_of_error h]
    exact ⟨blocks, hb, hx⟩
  | case2 w w' h =>
    obtain ⟨blocks, hb, hx, -⟩ := exchanged_round clock v w lines
    rw [h] at hx
    rw [run_of_over h]
    exact ⟨blocks, hb, hx⟩
  | case3 w w' h ih =>
    obtain ⟨blocks, hb, hx, hsuffix⟩ := exchanged_round clock v w lines
    rw [h] at hx hsuffix
    obtain ⟨later, hl, hx'⟩ := ih fun bytes hbytes => lines bytes (hsuffix.subset hbytes)
    rw [run_of_again h]
    refine ⟨blocks ++ later, fun b h => (List.mem_append.mp h).elim (hb b) (hl b), ?_⟩
    rw [List.flatten_append]
    exact hx.trans hx'

end Runs

/-- **The requests of a session come in blocks.** They are the requests of some exchanges, one block after the other,
and the replies in these are the ones that the transport had to give, in order; every identifier is a trimmed line of
the input. Requests for documents have no body, and only searches have a query. -/
theorem run_blocks (clock : Nat → Int) (v : Variant) (w : World Recording) :
    ∃ blocks : List (List Exchange), (∀ b ∈ blocks, Block v (Entered w.input) b) ∧
      (run ⟨Recording.transport, clock⟩ v w).2.transport.requests =
        w.transport.requests ++ blocks.flatten.map Prod.fst ∧
      blocks.flatten.map Prod.snd = (List.range blocks.flatten.length).map (w.transport.reply ·) ∧
      ∀ x ∈ blocks.flatten, (x.1.method = .get → x.1.body = none) ∧
        (x.1.query ≠ [] → ∃ c : Criteria, x.1 = { Request.get [] with query := c.toQuery }) := by
  obtain ⟨blocks, hb, hx⟩ := exchanged_run (L := Entered w.input) clock v w fun bytes h l hl => ⟨bytes, h, hl⟩
  refine ⟨blocks, hb, hx.requests, hx.replies, fun x h => ?_⟩
  obtain ⟨b, hmem, hxb⟩ := List.mem_flatten.mp h
  exact (hb b hmem).plain x hxb

end PaymentDesk.Session
