import PaymentDesk.Proofs.Session.Failure
import PaymentDesk.Proofs.Session.Lines
import PaymentDesk.Proofs.Session.Staging
import PaymentDesk.Proofs.Text.Decimal
import PaymentDesk.Proofs.Text.Trim
import PaymentDesk.Proofs.Url.Form
import PaymentDesk.Proofs.Url.Visible
import PaymentDesk.Proofs.Wire.Simulation

/-!
# What is searched for

After the choice of a search six lines are asked for: an amount and five texts. What they ask for (`entries`) is what is
not blank in them, the amount as the number that it denotes, the texts as they are but for the blanks around them.

**The service is asked for that** (`search_arrives`): one fetch of the base address arrives, and its query is read as
the entries, whatever characters they hold. An amount that denotes no number is refused before anything is sent, and
the lines behind it are still there for the next choice. Only a search that is too long to be put on the wire does not
arrive, or one that the terminal is in the way of (`search_lost`).
-/

namespace PaymentDesk

open Text

namespace Session

/-! ## What lines ask for -/

/-- The amount that a line asks for: none if it is blank, and else the number that it denotes. -/
def AsksFor (l : List Char) : Option Nat → Prop
  | none => trim l = []
  | some n => Decimal.Denotes (Nat.pow 2 32) (trim l) n

/-- The keys of the texts that can be asked for, in order. -/
def textKeys : List (List Char) :=
  ["application_reference", "description", "payment_reference", "created_date", "email"].map String.toList

/-- What an amount and five lines ask for: what is not blank. -/
def entries (n : Option Nat) (ls : List (List Char)) : List (List Char × List Char) :=
  (n.map fun n => ("amount".toList, Decimal.ofNat n)).toList ++
    (textKeys.zip (ls.map trim)).filter (! ·.2.isEmpty)

theorem amount_eq_ok_iff {l : List Char} {ls : List (List Char)} {n : Option Nat} :
    amount (given (l :: ls) 0) = .ok n ↔ AsksFor l n := by
  have hgiven : given (l :: ls) 0 = (some (trim l)).filter (! ·.isEmpty) := rfl
  have hbound : 0 < Nat.pow 2 32 := by decide
  rw [hgiven]
  cases hl : trim l with
  | nil =>
    show Except.ok none = Except.ok n ↔ _
    cases n with
    | none => exact iff_of_true rfl hl
    | some n =>
      refine iff_of_false (fun h => by cases h) ?_
      rintro ⟨digits, hdigits, hne, -⟩
      rw [hl] at hdigits
      rcases hdigits with hdigits | hdigits
      · exact hne hdigits.symm
      · cases hdigits
  | cons c s =>
    show amount (some (c :: s)) = _ ↔ _
    rw [amount]
    cases hread : Decimal.read (Nat.pow 2 32) (c :: s) with
    | ok m =>
      have hm := (Decimal.read_eq_ok_iff hbound).mp hread
      cases n with
      | none => exact iff_of_false (fun h => by cases h) fun h => by cases hl.symm.trans h
      | some n =>
        rw [AsksFor, hl, ← Decimal.read_eq_ok_iff hbound, hread]
        simp
    | error f =>
      refine iff_of_false (fun h => by cases h) ?_
      cases n with
      | none => exact fun h => by cases hl.symm.trans h
      | some n =>
        rw [AsksFor, hl, ← Decimal.read_eq_ok_iff hbound, hread]
        exact fun h => by cases h

/-- What is no amount is refused with what was entered. -/
theorem amount_eq_error {l : List Char} {ls : List (List Char)} {err : Error}
    (h : amount (given (l :: ls) 0) = .error err) : err = (Refusal.noAmount (trim l)).error := by
  have hgiven : given (l :: ls) 0 = (some (trim l)).filter (! ·.isEmpty) := rfl
  rw [hgiven] at h
  cases hl : trim l with
  | nil =>
    rw [hl] at h
    cases h
  | cons c s =>
    rw [hl] at h
    simp only [Option.filter_some, List.isEmpty_cons, Bool.not_false, if_true, amount] at h
    cases hread : Decimal.read (Nat.pow 2 32) (c :: s) with
    | ok m =>
      rw [hread] at h
      cases h
    | error f =>
      rw [hread] at h
      cases h
      rfl

theorem textPair_given (key l : List Char) :
    Criteria.textPair key ((some (trim l)).filter (! ·.isEmpty)) =
      Option.guard (fun p => ! p.2.isEmpty) (key, trim l) := by
  cases hl : trim l with
  | nil => rfl
  | cons c s =>
    have htrim : (some (c :: s)).map trim = some (c :: s) := by rw [Option.map_some, ← hl, trim_trim]
    show Criteria.textPair key (some (c :: s)) = _
    rw [Criteria.textPair, htrim]
    rfl

/-- **The criteria of a search are what the lines ask for.** -/
theorem toQuery_criteria (n : Option Nat) (l : List Char) {ls : List (List Char)} (h : ls.length = 5) :
    (criteria n (l :: ls)).toQuery = entries n ls := by
  obtain ⟨a, b, c, d, e, rfl⟩ : ∃ a b c d e, ls = [a, b, c, d, e] := by
    obtain ⟨a, as, rfl⟩ := List.exists_cons_of_length_eq_add_one h
    obtain ⟨b, bs, rfl⟩ := List.exists_cons_of_length_eq_add_one (Nat.succ.inj h)
    obtain ⟨c, d, e, rfl⟩ := List.length_eq_three.mp (Nat.succ.inj (Nat.succ.inj h))
    exact ⟨a, b, c, d, e, rfl⟩
  have hquery : (criteria n (l :: [a, b, c, d, e])).toQuery =
      (n.map fun n => ("amount".toList, Decimal.ofNat n)).toList ++
        (textKeys.zip [a, b, c, d, e]).filterMap fun p =>
          Criteria.textPair p.1 ((some (trim p.2)).filter (! ·.isEmpty)) := by
    cases n <;> rfl
  have hpairs (ps : List (List Char × List Char)) :
      (ps.filterMap fun p => Criteria.textPair p.1 ((some (trim p.2)).filter (! ·.isEmpty))) =
        (ps.map (Prod.map id trim)).filter (! ·.2.isEmpty) := by
    rw [← List.filterMap_eq_filter, List.filterMap_map]
    exact List.filterMap_congr fun p _ => textPair_given p.1 p.2
  rw [hquery, hpairs, entries, List.zip_map_right]

/-! ## The round of a search -/

section Round

variable {σ : Type} {e : Setting σ} {v : Variant} {w : World σ} {choice l : List Char} {ls : List (List Char)}
  (h : Sound w (choice :: l :: ls)) (chosen : v.actionFor (trim choice) = some .search)
include h chosen

/-- A search without an amount that can be used is refused, and the lines behind it are left. -/
theorem round_search_refused (hl : ∀ n, ¬ AsksFor l n) : ∃ k, (round v).run e w = (.ok .again,
    passed (opening v (choice :: l :: ls) ++ prompts [skippable "Amount"] (l :: ls) ++
        exhibit (.error (Refusal.noAmount (trim l)).error)) k ls
      (complaints .search (.error (Refusal.noAmount (trim l)).error)) w.ticks w.transport w) := by
  cases hamount : amount (given (l :: ls) 0) with
  | ok n => exact absurd (amount_eq_ok_iff.mp hamount) (hl n)
  | error err =>
    obtain rfl := amount_eq_error hamount
    have hi : interview v (l :: ls) .search =
        some ⟨[skippable "Amount"], .error (Refusal.noAmount (trim l)).error⟩ := by
      rw [interview, hamount]
    exact round_refuse h chosen hi rfl (noTerminal_of_order hi rfl)

/-- Any other search sends its request, and takes all six lines. -/
theorem round_search_asked {n : Option Nat} (five : ls.length = 5) (hl : AsksFor l n) {I : σ → Prop}
    (he : Dialogue.Answers e I NoTerminal) (hI : I w.transport) : ∃ text k log ticks, (round v).run e w = (.ok .again,
      passed text k [] log ticks
        (e.transport.send (Operation.searchRequest (criteria n (l :: ls))) w.transport).2.2 w) := by
  have hi : interview v (l :: ls) .search =
      some ⟨skippable "Amount" :: furtherLabels, .ok (.search (criteria n (l :: ls)))⟩ := by
    rw [interview, amount_eq_ok_iff.mpr hl]
  obtain ⟨o, log, ticks, s, hno, -, hop⟩ :=
    (Operation.silent_perform v (.search (criteria n (l :: ls)))).run he w.ticks w.transport hI
  have hp := hop (asked (skippable "Amount" :: furtherLabels) (l :: ls) (opened v (choice :: l :: ls) w)) rfl rfl
  have hs : s = (e.transport.send (Operation.searchRequest (criteria n (l :: ls))) w.transport).2.2 := by
    have hfetch := (Operation.run_fetch e (asked (skippable "Amount" :: furtherLabels) (l :: ls)
      (opened v (choice :: l :: ls) w)) (Operation.searchRequest (criteria n (l :: ls)))).2
    have htransport := congrArg (fun x => x.2.transport) hp
    exact htransport.symm.trans hfetch
  rw [← run_perform_ordered h.opened hi rfl] at hp
  obtain ⟨k, hr⟩ := round_action h chosen hi hno hp
  have hleft : (l :: ls).drop (skippable "Amount" :: furtherLabels).length = [] := by
    apply List.drop_eq_nil_of_le
    rw [List.length_cons, five]
    exact Nat.le_refl 6
  rw [hleft, hs] at hr
  exact ⟨_, k, _, ticks, hr⟩

end Round

end Session

/-! ## What arrives -/

/-- The path that is asked for. -/
def Arrival.path (a : Arrival) : List Char := a.target.takeWhile (· != '?')

/-- The query, if there is one. -/
def Arrival.query? (a : Arrival) : Option (List Char) := Url.after? '?' a.target

namespace Url

/-- The path of a special URL holds no `?`. -/
theorem mark_not_mem_path {s : List Char} {u : Url} (h : parse s = .ok u) (hs : isSpecial u.scheme = true) :
    '?' ∉ u.path.text := by
  have hencode (s : List Char) : '?' ∉ Percent.encode Percent.inPath s := by
    intro hmem
    have hdigit : ∀ n < 16, '?' ≠ Percent.upperDigit n := by decide
    rcases Percent.mem_encode hmem with hkept | hpercent | ⟨n, hn, hupper⟩
    · exact absurd hkept (by decide)
    · exact absurd hpercent (by decide)
    · exact hdigit n hn hupper
  obtain ⟨r, -, hr⟩ := of_parse h hs
  rw [parseSpecial_eq] at hr
  cases ha : parseAuthority u.scheme (authorityPart r) with
  | error f =>
    rw [ha] at hr
    cases hr
  | ok a =>
    rw [ha] at hr
    have hpath := congrArg Url.path (Except.ok.inj hr)
    have hsegments := forall_walk (P := fun s => '?' ∉ s) List.not_mem_nil hencode
      (writtenSegments true (splitTail (tailPart r)).path) [] (List.forall_mem_nil _)
    rw [← hpath]
    intro hmem
    obtain ⟨l, hl, hmem⟩ := List.mem_flatMap.mp hmem
    exact (List.mem_cons.mp hmem).elim (by decide) (hsegments l hl)

theorem appendQuery_of_none {u : Url} (hu : u.query = none) {pairs : List (List Char × List Char)} (h : pairs ≠ []) :
    u.appendQuery pairs = { u with query := some (Form.encode pairs) } := by
  rw [appendQuery, if_neg (by simpa using h), hu]

theorem after?_append {mark : Char} {x : List Char} (hx : mark ∉ x) (y : List Char) :
    (x ++ mark :: y).takeWhile (· != mark) = x ∧ after? mark (x ++ mark :: y) = some y := by
  have hall : ∀ c ∈ x, (c != mark) = true := by
    intro c hc
    rw [bne_iff_ne]
    rintro rfl
    exact hx hc
  rw [after?, List.takeWhile_append_of_pos hall, List.dropWhile_append_of_pos hall]
  simp

theorem after?_eq_none_of {mark : Char} {x : List Char} (hx : mark ∉ x) :
    x.takeWhile (· != mark) = x ∧ after? mark x = none := by
  have hall : ∀ c ∈ x, (c != mark) = true := by
    intro c hc
    rw [bne_iff_ne]
    rintro rfl
    exact hx hc
  rw [after?, List.takeWhile_eq_self_iff.mpr hall, List.dropWhile_eq_nil_iff.mpr hall]
  exact ⟨rfl, rfl⟩

end Url

section Arriving

variable {base id : List Char} {timeout : Option Nat} {c : Config} {u : Url}
  (hc : Config.make base id timeout = .ok c) (hu : c.urlFor (.get []) = .ok u)
include hc hu

/-- A search is addressed at the base address, with its pairs for a query. -/
theorem Config.urlFor_search (q : Criteria) :
    c.urlFor (Operation.searchRequest q) = .ok (u.appendQuery q.toQuery) ∧ u.query = none := by
  obtain ⟨p, rfl, hall⟩ := urlFor_eq hc hu
  exact ⟨hall (Operation.searchRequest q), rfl⟩

theorem Config.mark_not_mem_path : '?' ∉ u.path.text := by
  obtain ⟨hbase, -, u', hcheck⟩ := of_make hc
  have hp := parse_of_urlFor hu
  exact Url.mark_not_mem_path hp (base_of_checkBase hcheck (hbase ▸ hp)).1

/-- **A search arrives as its pairs**, and without a query if there are none. -/
theorem Config.arrival_search {q : Criteria} {o : Outgoing} (ho : c.outgoing (Operation.searchRequest q) = .ok o) :
    (Network.arrival o).method = .get ∧ (Network.arrival o).path = u.path.text ∧
      (Network.arrival o).query?.map Url.Form.decode = if q.toQuery = [] then none else some q.toQuery := by
  obtain ⟨hmethod, ⟨v, hv, htarget⟩, -, -, -⟩ := carries_arrival ho
  obtain ⟨hsearch, hquery⟩ := urlFor_search hc hu q
  have hmark := mark_not_mem_path hc hu
  refine ⟨hmethod, ?_⟩
  rw [hsearch] at hv
  obtain rfl := Except.ok.inj hv
  rw [Arrival.path, Arrival.query?, htarget, Url.target]
  by_cases hnil : q.toQuery = []
  · have hsame : u.appendQuery q.toQuery = u := by
      rw [hnil]
      rfl
    rw [hsame, hquery, List.append_nil, if_pos hnil]
    obtain ⟨hpath, hnone⟩ := Url.after?_eq_none_of hmark
    exact ⟨hpath, by rw [hnone]; rfl⟩
  · rw [Url.appendQuery_of_none hquery hnil, if_neg hnil]
    obtain ⟨hpath, hsome⟩ := Url.after?_append hmark (Url.Form.encode q.toQuery)
    refine ⟨hpath, ?_⟩
    show (Url.after? '?' (u.path.text ++ '?' :: Url.Form.encode q.toQuery)).map _ = _
    rw [hsome, Option.map_some, Url.Form.decode_encode]

end Arriving

/-- A request that is not redirected arrives once, if it can be put on the wire. -/
theorem Wire.arriving_eq {w : Wire} {r : Request} {n : Network} {o : Outgoing} (ho : w.config.outgoing r = .ok o)
    (h : ¬ w.Redirected r n) : w.arriving r n = if w.visits o = true then [Network.arrival o] else [] := by
  have honce := arriving_of_not_redirected h
  rw [arriving, ho] at honce ⊢
  simp only at honce ⊢
  by_cases hv : w.visits o = true
  · rw [arrivals, if_pos hv] at honce ⊢
    rw [if_pos hv]
    rcases honce with hnone | ⟨a, hone, -⟩
    · cases hnone
    · rw [(List.cons.inj hone).2]
  · rw [if_neg hv]
    exact arrivals_eq_nil.mpr (Bool.eq_false_iff.mpr hv)

namespace Session

section Search

variable {base id : List Char} {timeout : Option Nat} {c : Config} {u : Url}
  (hc : Config.make base id timeout = .ok c) (hu : c.urlFor (.get []) = .ok u)
include hc hu

/-- What the server has received after a search. -/
theorem received_search {n : Option Nat} {l : List Char} {ls : List (List Char)} (five : ls.length = 5) {net : Network}
    (stays : ∀ r, ¬ (openWire c).Redirected r net) :
    let r := Operation.searchRequest (criteria n (l :: ls))
    let after := ((openWire c).send r net).2.2
    if c.isSendable r = true then
      ∃ a, after.received = net.received ++ [a] ∧ a.method = .get ∧ a.path = u.path.text ∧
        a.query?.map Url.Form.decode = if entries n ls = [] then none else some (entries n ls)
    else after.received = net.received := by
  intro r after
  obtain ⟨o, ho⟩ := Config.outgoing_ok hc hu r
  have hreceived : after.received = net.received ++ (openWire c).arriving r net := (openWire c).received_send r net
  have hsendable : c.isSendable r = o.url.isSendable := by rw [Config.isSendable, ho]
  rw [hreceived, Wire.arriving_eq (w := openWire c) ho (stays r), visits_openWire hc ho, hsendable]
  by_cases hs : o.url.isSendable = true
  · rw [if_pos hs, if_pos hs]
    obtain ⟨hmethod, hpath, hquery⟩ := Config.arrival_search hc hu ho
    rw [toQuery_criteria n l five] at hquery
    exact ⟨Network.arrival o, rfl, hmethod, hpath, hquery⟩
  · rw [if_neg hs, if_neg hs, List.append_nil]

/-- **The service is asked for what was entered.** -/
theorem search_arrives (clock : Nat → Int) (v : Variant) {w : World Network} {choice l : List Char}
    {ls : List (List Char)} {rest : List (List UInt8)} (sink : w.sink.Boundless)
    (input : w.input = (choice :: l :: ls).map Utf8.encode ++ rest) (five : ls.length = 5)
    (chosen : v.actionFor (trim choice) = some .search) (stays : ∀ r, ¬ (openWire c).Redirected r w.transport) :
    let e : Setting Network := ⟨(openWire c).transport, clock⟩
    ∃ w' : World Network, run e v w = run e v w' ∧
      (∀ n, AsksFor l n → w'.input = rest ∧
        if c.isSendable (Operation.searchRequest (criteria n (l :: ls))) = true then
          ∃ a, w'.transport.received = w.transport.received ++ [a] ∧ a.method = .get ∧ a.path = u.path.text ∧
            a.query?.map Url.Form.decode = if entries n ls = [] then none else some (entries n ls)
        else w'.transport.received = w.transport.received) ∧
      ((∀ n, ¬ AsksFor l n) → w'.transport = w.transport ∧ w'.input = ls.map Utf8.encode ++ rest ∧
        w'.sink.stored = w.sink.stored ++ Utf8.encode (opening v (choice :: l :: ls) ++
          prompts [skippable "Amount"] (l :: ls) ++ exhibit (.error (Refusal.noAmount (trim l)).error)) ∧
        w'.log = w.log ++ complaints .search (.error (Refusal.noAmount (trim l)).error)) := by
  intro e
  let w₀ : World Network := { w with input := (choice :: l :: ls).map Utf8.encode }
  have sound : Sound w₀ (choice :: l :: ls) := ⟨rfl, sink⟩
  have hw : w = w₀.followed rest := by
    rw [World.followed, ← input]
  have hseven : 7 ≤ w₀.input.length := by
    rw [List.length_map, List.length_cons, List.length_cons, five]
  have hround := round_followed (e := e) v hseven rest
  rw [← hw] at hround
  by_cases hl : ∃ n, AsksFor l n
  · obtain ⟨n, hn⟩ := hl
    have he : Dialogue.Answers e (fun _ => True) NoTerminal := fun r n _ => ⟨Wire.noTerminal_send _ r n, trivial⟩
    obtain ⟨text, k, log, ticks, hr⟩ := round_search_asked sound chosen five hn he trivial
    rw [hr] at hround
    refine ⟨_, run_of_again hround, fun m hm => ⟨rfl, ?_⟩, fun hnone => absurd hn (hnone n)⟩
    -- an amount is no other one
    have hamount : amount (given (l :: ls) 0) = .ok n := amount_eq_ok_iff.mpr hn
    obtain rfl := Except.ok.inj (hamount.symm.trans (amount_eq_ok_iff.mpr hm))
    exact received_search hc hu five stays
  · have hnone : ∀ n, ¬ AsksFor l n := fun n hn => hl ⟨n, hn⟩
    obtain ⟨k, hr⟩ := round_search_refused (e := e) sound chosen hnone
    rw [hr] at hround
    exact ⟨_, run_of_again hround, fun n hn => absurd hn (hnone n), fun _ => ⟨rfl, rfl, rfl, rfl⟩⟩

end Search

theorem not_redirected_nil (c : Config) (r : Request) : ¬ (openWire c).Redirected r {} := by
  rintro ⟨o, o', -, -, honward, -⟩
  have hnone : Wire.onward o {} = none := rfl
  rw [hnone] at honward
  cases honward

/-- A number with a sign and zeros, a text full of marks, and what follows is no text. -/
theorem search_arrives_marks :
    let e : Setting Network := ⟨(openWire {}).transport, fun _ => 0⟩
    let ls := ["\n", " a&b=c+%20 \n", " \n", "é?\n", "\n"].map String.toList
    let w : World Network := {
      input := ("s\n".toList :: "+007\n".toList :: ls).map Utf8.encode ++ [[0xFF]]
      transport := {} }
    AsksFor "+007\n".toList (some 7) ∧ ∃ w', run e .current w = run e .current w' ∧ w'.input = [[0xFF]] ∧
      ∃ a, w'.transport.received = [a] ∧ a.method = .get ∧ a.path = "/payments/".toList ∧
        a.query?.map Url.Form.decode = some [("amount".toList, "7".toList),
          ("description".toList, "a&b=c+%20".toList), ("created_date".toList, "é?".toList)] := by
  intro e ls w
  have hc : Config.make "http://localhost:8181/payments/".toList "divorce".toList none = .ok {} := by decide +kernel
  have hu : ({} : Config).urlFor (.get []) = .ok Config.deskUrl := by decide +kernel
  have hasks : AsksFor "+007\n".toList (some 7) :=
    (Decimal.read_eq_ok_iff (by decide)).mp (by decide +kernel)
  have hinput : w.input = ("s\n".toList :: "+007\n".toList :: ls).map Utf8.encode ++ [[0xFF]] := rfl
  obtain ⟨w', hrun, hasked, -⟩ := search_arrives hc hu (fun _ => 0) .current ⟨rfl, rfl⟩ hinput rfl (by decide +kernel)
    (not_redirected_nil {})
  obtain ⟨hleft, harrived⟩ := hasked (some 7) hasks
  have hsendable : ({} : Config).isSendable
      (Operation.searchRequest (criteria (some 7) ("+007\n".toList :: ls))) = true := by decide +kernel
  rw [if_pos hsendable] at harrived
  obtain ⟨a, hreceived, hmethod, hpath, hquery⟩ := harrived
  have hentries : entries (some 7) ls = [("amount".toList, "7".toList),
      ("description".toList, "a&b=c+%20".toList), ("created_date".toList, "é?".toList)] := by decide +kernel
  rw [hentries, if_neg (List.cons_ne_nil _ _)] at hquery
  exact ⟨hasks, w', hrun, hleft, a, hreceived, hmethod, hpath.trans (by decide +kernel), hquery⟩

/-! ## What does not arrive -/

/-- A search for a long text cannot be put on the wire. -/
theorem not_isSendable_of_long_search {base id : List Char} {timeout : Option Nat} {c : Config} {u : Url}
    (hc : Config.make base id timeout = .ok c) (hu : c.urlFor (.get []) = .ok u) {q : Criteria} {key s : List Char}
    (hq : q.toQuery = [(key, s)]) (hlong : 65535 ≤ s.length) :
    c.isSendable (Operation.searchRequest q) = false := by
  obtain ⟨o, ho⟩ := Config.outgoing_ok hc hu (Operation.searchRequest q)
  obtain ⟨v, hv, htarget⟩ := (Config.carries_arrival ho).target
  obtain ⟨hsearch, hnone⟩ := Config.urlFor_search hc hu q
  rw [hsearch, hq] at hv
  obtain rfl := Except.ok.inj hv
  have htarget : o.url.target = u.path.text ++ '?' :: (Url.Form.encodeText key ++ '=' :: Url.Form.encodeText s) := by
    refine htarget.trans ?_
    rw [Url.appendQuery_of_none hnone (List.cons_ne_nil _ _), Url.Form.encode, List.map_singleton,
      List.intercalate_singleton]
    rfl
  have hencoded : s.length ≤ (Url.Form.encodeText s).length := by
    have hunplus := congrArg List.length (Url.Form.unplus_encodeText s)
    rw [List.length_map] at hunplus
    rw [hunplus]
    exact Url.length_le_encode _ s
  have htext := o.url.length_target_le
  rw [htarget] at htext
  simp only [List.length_append, List.length_cons] at htext
  rw [Config.isSendable, ho]
  simp only [Url.isSendable, Bool.and_eq_false_iff]
  exact .inl (decide_eq_false (by omega))

/-- The lines of a search for a description, and nothing more. -/
def descriptionLines (s : List Char) : List (List Char) :=
  ["s\n".toList, ['\n'], ['\n'], s ++ ['\n'], ['\n'], ['\n'], ['\n']]

/-- **A search for a long word does not arrive.** -/
theorem received_search_long {base id : List Char} {timeout : Option Nat} {c : Config} {u : Url}
    (hc : Config.make base id timeout = .ok c) (hu : c.urlFor (.get []) = .ok u) (clock : Nat → Int) {s : List Char}
    (hword : ∀ d ∈ s, isBlank d = false) (hlong : 65535 ≤ s.length) :
    (run ⟨(openWire c).transport, clock⟩ .current
      { input := (descriptionLines s).map Utf8.encode, transport := {} }).2.transport.received = [] := by
  have hne : s ≠ [] := by
    rintro rfl
    cases hlong
  have htrim : trim (s ++ ['\n']) = s :=
    trim_append_of_blank hword hne (List.forall_mem_singleton.mpr (by decide))
  let ls : List (List Char) := [['\n'], s ++ ['\n'], ['\n'], ['\n'], ['\n']]
  have hentries : entries none ls = [("description".toList, s)] := by
    obtain ⟨d, r, rfl⟩ := List.exists_cons_of_ne_nil hne
    have htrimmed : ls.map trim = [[], d :: r, [], [], []] := by
      simp only [ls, List.map_cons, List.map_nil, htrim]
      rfl
    rw [entries, htrimmed]
    rfl
  have hasks : AsksFor ['\n'] none := by
    show trim ['\n'] = []
    decide
  let w : World Network := { input := (descriptionLines s).map Utf8.encode, transport := {} }
  have sound : Sound w ("s\n".toList :: ['\n'] :: ls) := ⟨rfl, rfl, rfl⟩
  have he : Dialogue.Answers ⟨(openWire c).transport, clock⟩ (fun _ => True) NoTerminal := fun r n _ =>
    ⟨Wire.noTerminal_send _ r n, trivial⟩
  obtain ⟨text, k, log, ticks, hr⟩ := round_search_asked (v := .current) sound (by decide +kernel) rfl hasks he trivial
  obtain ⟨k', hover⟩ := round_over_of_nil (v := .current) (sound.passed text k [] log ticks _)
  have five : ls.length = 5 := rfl
  have hreceived := received_search hc hu (n := none) (l := ['\n']) five (not_redirected_nil c)
  have hsendable := not_isSendable_of_long_search hc hu ((toQuery_criteria none ['\n'] rfl).trans hentries) hlong
  rw [if_neg (by rw [hsendable]; exact Bool.false_ne_true)] at hreceived
  show (run _ _ w).2.transport.received = []
  rw [run_of_again hr, run_of_over hover]
  exact hreceived

/-- Nothing arrives of a search for 65535 letters, and nothing of one at a terminal that fails at the last question. -/
theorem search_lost :
    Config.make "http://localhost:8181/payments/".toList "divorce".toList none = .ok {} ∧
      ({} : Config).urlFor (.get []) = .ok Config.deskUrl ∧
      Variant.current.actionFor (trim "s\n".toList) = some .search ∧ AsksFor ['\n'] none ∧
      (run ⟨(openWire {}).transport, fun _ => 0⟩ .current
        { input := (descriptionLines longId).map Utf8.encode, transport := {} }).2.transport.received = [] ∧
      (run ⟨(openWire {}).transport, fun _ => 0⟩ .current
        { input := (descriptionLines ['a']).map Utf8.encode, sink := { flushLimit := some 6 },
          transport := {} }).2.transport.received = [] := by
  have hc : Config.make "http://localhost:8181/payments/".toList "divorce".toList none = .ok {} := by decide +kernel
  have hu : ({} : Config).urlFor (.get []) = .ok Config.deskUrl := by decide +kernel
  have hasks : AsksFor ['\n'] none := by
    show trim ['\n'] = []
    decide
  have hword : ∀ d ∈ longId, isBlank d = false := by
    intro d hmem
    rw [(List.mem_replicate.mp hmem).2]
    decide
  have hlong : 65535 ≤ longId.length := (List.length_replicate).ge
  refine ⟨hc, hu, by decide +kernel, hasks, received_search_long hc hu (fun _ => 0) hword hlong, ?_⟩
  let w : World Network :=
    { input := (descriptionLines ['a']).map Utf8.encode, sink := { flushLimit := some 6 }, transport := {} }
  have hfails : ((round .current).run ⟨(openWire {}).transport, fun _ => 0⟩ w).1.isOk = false := by decide +kernel
  have hnone : ((round .current).run ⟨(openWire {}).transport, fun _ => 0⟩ w).2.transport.received.isEmpty = true := by
    decide +kernel
  rcases hround : (round .current).run ⟨(openWire {}).transport, fun _ => 0⟩ w with ⟨err | turn, w'⟩
  · rw [hround] at hnone
    rw [run_of_error hround]
    exact List.isEmpty_iff.mp hnone
  · rw [hround] at hfails
    cases hfails

end Session

end PaymentDesk
