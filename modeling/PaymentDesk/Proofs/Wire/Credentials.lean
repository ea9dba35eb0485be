import PaymentDesk.Proofs.Config.Credentials
import PaymentDesk.Proofs.Dialogue.Image
import PaymentDesk.Proofs.Wire.Arrivals

/-!
# Credentials and what is done with them

A network keeps what it received, headers and all; without the headers that tell who asked it is the network that
somebody unnamed would have used (`Network.anonymous`). The wire to the same place without credentials is the image of
the wire with them (`isImage_anonymous`), redirections included. **Nobody who uses the desk can tell whether its address
names a user** (`runAll_user`): replies, results, output and log are the same, and so is all that arrives, but for the
one header.
-/

namespace PaymentDesk

open Text

/-! ## Headers -/

/-- A request as it was received, without the header that told who asked. -/
def Arrival.anonymous (a : Arrival) : Arrival := { a with headers := anonymousHeaders a.headers }

/-- The same network, with nobody known to it. -/
def Network.anonymous (n : Network) : Network := { n with received := n.received.map Arrival.anonymous }

theorem anonymousHeaders_filter (p : Header → Bool) (hs : List Header) :
    anonymousHeaders (hs.filter p) = (anonymousHeaders hs).filter p := by
  rw [anonymousHeaders, anonymousHeaders, List.filter_filter, List.filter_filter]
  exact List.filter_congr fun h _ => Bool.and_comm _ _

theorem Network.arrival_anonymous (o : Outgoing) : arrival o.anonymous = (arrival o).anonymous := by
  have hheaders : (anonymousHeaders o.headers).map (fun h => (h.1, trimValue h.2)) =
      anonymousHeaders (o.headers.map fun h => (h.1, trimValue h.2)) := by
    rw [anonymousHeaders, anonymousHeaders, List.filter_map]
    rfl
  simp only [arrival, Outgoing.anonymous, Arrival.anonymous, hheaders]

/-- The server answers whoever asks. -/
theorem Network.deliver_anonymous (o : Outgoing) (n : Network) :
    n.anonymous.deliver o.anonymous = ((n.deliver o).1, (n.deliver o).2.anonymous) := by
  have hreceived : n.anonymous.received ++ [arrival o.anonymous] =
      (n.received ++ [arrival o]).map Arrival.anonymous := by
    rw [List.map_append, arrival_anonymous]
    rfl
  rw [deliver, deliver, hreceived, show n.anonymous.script = n.script from rfl]
  cases n.script <;> rfl

/-- A redirection is followed with the headers that are there. -/
theorem Outgoing.redirect_anonymous (status : Nat) (target : Url) (o : Outgoing) :
    o.anonymous.redirect status target = (o.redirect status target).anonymous := by
  by_cases hserver : o.url.sameServer target = true <;> by_cases hget : becomesGet status o.method = true <;>
    simp only [redirect, anonymous, hserver, hget, if_true, Bool.false_eq_true, if_false, anonymousHeaders_filter]

/-! ## Sending -/

namespace Wire

variable {w w' : Wire}

/-- An exchange does not depend on who asks. -/
theorem exchange_anonymous (hreaches : w.reaches = w'.reaches) (left : Nat) (o : Outgoing) (n : Network) :
    w.exchange left o.anonymous n.anonymous =
      ((w'.exchange left o n).1, (w'.exchange left o n).2.1, (w'.exchange left o n).2.2.anonymous) := by
  have hurl : o.anonymous.url = o.url := rfl
  induction left generalizing o n with
  | zero =>
    rw [exchange, exchange, hurl, hreaches, Network.deliver_anonymous]
    split
    · rfl
    split
    · rfl
    rcases n.deliver o with ⟨answer, n'⟩
    cases answer with
    | reply status headers body =>
      rcases h : redirection? o.url status headers with _ | ⟨f | target⟩ <;> simp only [h]
    | drop => rfl
    | stall => rfl
  | succ left ih =>
    rw [exchange, exchange, hurl, hreaches, Network.deliver_anonymous]
    split
    · rfl
    split
    · rfl
    rcases n.deliver o with ⟨answer, n'⟩
    cases answer with
    | reply status headers body =>
      rcases h : redirection? o.url status headers with _ | ⟨f | target⟩
      · simp only [h]
      · simp only [h]
      · simp only [h, Outgoing.redirect_anonymous, ih _ _ rfl]
    | drop => rfl
    | stall => rfl

/-- A wire to the same place as somebody. -/
theorem isImage_anonymous (hreaches : w.reaches = w'.reaches)
    (hconfig : ∀ r, w.config.outgoing r = (w'.config.outgoing r).map Outgoing.anonymous) :
    w'.transport.IsImage w.transport Network.anonymous := by
  intro r n
  show w.send r n.anonymous = ((w'.send r n).1, (w'.send r n).2.1, (w'.send r n).2.2.anonymous)
  rw [send, send, hconfig]
  cases w'.config.outgoing r with
  | error e => rfl
  | ok o =>
    have hexchange := exchange_anonymous hreaches 10 o n
    simp only [Except.map, hexchange]
    rcases w'.exchange 10 o n with ⟨f | ⟨status, body⟩, records, n'⟩ <;> rfl

end Wire

/-! ## All that is done -/

/-- **Nobody can tell whether the base address names a user.** An address with a user in front of its host is accepted
like the one without, requests have the same addresses but for the user in them, and whatever is done, over whatever
network, comes to the same. -/
theorem runAll_user {scheme rest info id : List Char} {timeout : Option Nat} {c : Config} (hcolon : ':' ∉ scheme)
    (hrest : Url.Userless rest) (hflat : ∀ c ∈ rest, Url.isTabOrLineEnd c = false) (hinfo : Url.IsUserInfo info)
    (hread : Url.IsReadable info) (hc : Config.make (scheme ++ "://".toList ++ rest) id timeout = .ok c) :
    ∃ c', Config.make (scheme ++ "://".toList ++ info ++ '@' :: rest) id timeout = .ok c' ∧
      (∀ r, c'.urlFor r = (c.urlFor r).map (·.asUser info) ∧
        c.outgoing r = (c'.outgoing r).map Outgoing.anonymous ∧
        ∀ o, c.outgoing r = .ok o → ∀ h ∈ o.headers, h.1 ≠ "authorization".toList) ∧
      ∀ (reaches : Url → Bool) (clock : Nat → Int) (errands : List Errand) (w : World Network),
        let unnamed := Errand.runAll ⟨(Wire.mk c reaches).transport, clock⟩ errands (w.image Network.anonymous)
        let named := Errand.runAll ⟨(Wire.mk c' reaches).transport, clock⟩ errands w
        unnamed = (named.1, named.2.image Network.anonymous) := by
  obtain ⟨c', hc', hbase, hid⟩ := Config.make_user hcolon hrest hflat hc hinfo
  have haddress (r : Request) := (Config.urlFor_user hcolon hrest hflat hc hinfo hbase r).1
  have hsent (r : Request) := Config.outgoing_user hcolon hrest hflat hc hinfo hread hbase hid r
  refine ⟨c', hc', fun r => ⟨haddress r, hsent r⟩, fun reaches clock errands w => ?_⟩
  have himage : (Wire.mk c' reaches).transport.IsImage (Wire.mk c reaches).transport Network.anonymous :=
    Wire.isImage_anonymous rfl fun r => (hsent r).1
  exact Errand.runAll_image himage clock errands w

/-- The user is a mail address here, and the password holds a colon and an encoded letter. -/
theorem runAll_user_mail : ∃ c',
    Config.make "http://ann@desk:s:ecret%C3%A9@localhost:8181/payments".toList "divorce".toList none = .ok c' ∧
      (∀ r, ({} : Config).outgoing r = (c'.outgoing r).map Outgoing.anonymous) ∧
      let errands : List Errand := [.send (.get "a@b".toList), .call .current (.operation (.refund "RC-1".toList)),
        .call .legacy (.session (byteLines (Utf8.encode "2\nRC-2\nq\n".toList)) {})]
      let unnamed := Errand.runAll ⟨(Wire.mk {} fun _ => true).transport, fun _ => 0⟩ errands { transport := {} }
      let named := Errand.runAll ⟨(Wire.mk c' fun _ => true).transport, fun _ => 0⟩ errands { transport := {} }
      unnamed.1 = named.1 ∧ unnamed.2.log = named.2.log ∧
        unnamed.2.transport.received = named.2.transport.received.map Arrival.anonymous := by
  have hall : "ann@desk:s:ecret%C3%A9".toList.all
      (fun c => ! Url.endsAuthority true c && ! Url.isTabOrLineEnd c) = true := by decide
  have hinfo : Url.IsUserInfo "ann@desk:s:ecret%C3%A9".toList := fun c hmem => by
    simpa using List.all_eq_true.mp hall c hmem
  have hread : Url.IsReadable "ann@desk:s:ecret%C3%A9".toList := ⟨by decide +kernel, by decide +kernel⟩
  have hflat : "localhost:8181/payments".toList.all (! Url.isTabOrLineEnd ·) = true := by decide
  have hrest : Url.Userless "localhost:8181/payments".toList := by
    refine ⟨fun c hmem => ?_, by decide⟩
    rw [← Option.some.inj hmem]
    decide
  have hc : Config.make ("http".toList ++ "://".toList ++ "localhost:8181/payments".toList) "divorce".toList none =
      .ok {} := by decide +kernel
  have hcolon : ':' ∉ "http".toList := by decide
  obtain ⟨c', hc', hsent, hrun⟩ := runAll_user hcolon hrest
    (fun c hmem => by simpa using List.all_eq_true.mp hflat c hmem) hinfo hread hc
  refine ⟨c', hc', fun r => (hsent r).2.1, ?_⟩
  intro errands unnamed named
  have hsame : unnamed = (named.1, named.2.image Network.anonymous) :=
    hrun (fun _ => true) (fun _ => 0) errands { transport := {} }
  rw [hsame]
  exact ⟨rfl, rfl, rfl⟩

end PaymentDesk
