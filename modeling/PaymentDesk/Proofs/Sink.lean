import PaymentDesk.Request
import PaymentDesk.Sink

/-!
# What a sink takes

A sink meets the events of a conversation one after the other, up to the first that it refuses (`Sink.play`). What it
takes it stores and counts, and it never holds more than its limits allow (`Sink.play_cases`). So a sink with room for
`n` bytes stores the first `n` bytes of the output, and refuses exactly if there are more (`Sink.play_writeLimit`); and
a sink that allows `m` flushes refuses exactly if there are more (`Sink.play_flushLimit`).
-/

namespace PaymentDesk

/-! ## Events -/

/-- What happens at the terminal or on the way to the service. -/
inductive Event where
  | wrote (bytes : List UInt8)
  | flushed
  | sent (request : Request)

namespace Event

/-- The bytes that an event writes. -/
def bytes : Event → List UInt8
  | wrote b => b
  | flushed | sent _ => []

/-- The request that an event sends. -/
def request? : Event → Option Request
  | sent r => some r
  | wrote _ | flushed => none

/-- The output is flushed. -/
def isFlush : Event → Bool
  | flushed => true
  | wrote _ | sent _ => false

end Event

/-- The output of some events. -/
def written (events : List Event) : List UInt8 := events.flatMap Event.bytes

/-- The requests of some events. -/
def requested (events : List Event) : List Request := events.filterMap Event.request?

/-- How often some events flush the output. -/
def flushCount (events : List Event) : Nat := events.countP Event.isFlush

section Append

variable (x y : List Event)

theorem written_append : written (x ++ y) = written x ++ written y := List.flatMap_append

theorem requested_append : requested (x ++ y) = requested x ++ requested y := List.filterMap_append

theorem flushCount_append : flushCount (x ++ y) = flushCount x + flushCount y := List.countP_append

theorem written_mono {x y : List Event} : x <+: y → written x <+: written y
  | ⟨r, h⟩ => ⟨written r, by rw [← written_append, h]⟩

theorem requested_mono {x y : List Event} (h : x <+: y) : requested x <+: requested y := h.filterMap _

end Append

namespace Sink

/-! ## Single events -/

/-- What a sink does about an event. Requests do not concern it. -/
def meet (s : Sink) : Event → Except Fault Unit × Sink
  | .wrote b => s.write b
  | .flushed => s.flush
  | .sent _ => (.ok (), s)

/-- The sink after events that it took. -/
def having (events : List Event) (s : Sink) : Sink :=
  { s with stored := s.stored ++ written events, flushes := s.flushes + flushCount events }

/-- The sink holds no more than its limits allow. -/
structure WithinLimits (s : Sink) : Prop where
  bytes : ∀ n, s.writeLimit = some n → s.stored.length ≤ n
  flushes : ∀ m, s.flushLimit = some m → s.flushes ≤ m

variable {s : Sink}

theorem having_having (x y : List Event) : (s.having x).having y = s.having (x ++ y) := by
  simp only [having, written_append, flushCount_append, List.append_assoc, Nat.add_assoc]

theorem having_nil : s.having [] = s := by
  simp [having, written, flushCount]

/-- The bytes that no longer fit, or the flush that is not allowed any more. -/
inductive Refuses (s : Sink) : Event → Fault → Sink → Prop where
  | full {b : List UInt8} {n : Nat} (limit : s.writeLimit = some n) (beyond : n < (s.stored ++ b).length) :
    Refuses s (.wrote b) .full { s with stored := (s.stored ++ b).take n }
  | flushFailed {m : Nat} (limit : s.flushLimit = some m) (beyond : m ≤ s.flushes) : Refuses s .flushed .flushFailed s

/-- A sink takes an event, or refuses it. -/
theorem meet_cases (s : Sink) (ev : Event) :
    (s.meet ev = (.ok (), s.having [ev]) ∧ (s.WithinLimits → (s.having [ev]).WithinLimits)) ∨
      ∃ f s', s.meet ev = (.error f, s') ∧ s.Refuses ev f s' := by
  cases ev with
  | wrote b =>
    have stored : (s.having [.wrote b]) = { s with stored := s.stored ++ b } := by
      simp [having, written, flushCount, Event.bytes, Event.isFlush]
    rw [stored]
    cases hn : s.writeLimit with
    | none => exact .inl ⟨by simp [meet, write, hn], fun h => ⟨nofun, h.flushes⟩⟩
    | some n =>
      by_cases hb : (s.stored ++ b).length ≤ n
      · refine .inl ⟨by simp only [meet, write, hn, if_pos hb], fun h => ⟨fun n' hn' => ?_, h.flushes⟩⟩
        rw [show n = n' from Option.some.inj hn'] at hb
        exact hb
      · exact .inr ⟨_, _, by simp only [meet, write, hn, if_neg hb], .full hn (Nat.lt_of_not_le hb)⟩
  | flushed =>
    have flushed : (s.having [.flushed]) = { s with flushes := s.flushes + 1 } := by
      simp [having, written, flushCount, Event.bytes, Event.isFlush]
    rw [flushed]
    cases hm : s.flushLimit with
    | none => exact .inl ⟨by simp [meet, flush, hm], fun h => ⟨h.bytes, nofun⟩⟩
    | some m =>
      by_cases hlt : s.flushes < m
      · refine .inl ⟨by simp only [meet, flush, hm, if_pos hlt], fun h => ⟨h.bytes, fun m' hm' => ?_⟩⟩
        rw [show m = m' from Option.some.inj hm'] at hlt
        exact hlt
      · exact .inr ⟨_, _, by simp only [meet, flush, hm, if_neg hlt], .flushFailed hm (Nat.le_of_not_lt hlt)⟩
  | sent r =>
    have same : s.having [.sent r] = s := by simp [having, written, flushCount, Event.bytes, Event.isFlush]
    rw [same]
    exact .inl ⟨rfl, id⟩

/-! ## Many events -/

/-- How far a sink takes some events: the events before the first that it refuses, the sink in the end, and why it
refused. -/
structure Played where
  taken : List Event
  sink : Sink
  fault : Option Fault

/-- Puts an event that was taken in front. -/
def Played.after (ev : Event) (p : Played) : Played := { p with taken := ev :: p.taken }

/-- Meets events up to the first that is refused. -/
def play (s : Sink) : List Event → Played
  | [] => ⟨[], s, none⟩
  | ev :: r => match s.meet ev with
    | (.ok (), s') => (s'.play r).after ev
    | (.error f, s') => ⟨[], s', some f⟩

theorem play_of_ok {s' : Sink} {ev : Event} (h : s.meet ev = (.ok (), s')) (r : List Event) :
    s.play (ev :: r) = (s'.play r).after ev := by
  rw [play, h]

theorem play_of_error {s' : Sink} {ev : Event} {f : Fault} (h : s.meet ev = (.error f, s')) (r : List Event) :
    s.play (ev :: r) = ⟨[], s', some f⟩ := by
  rw [play, h]

/-- **What a sink takes.** All events, or those before one that it refuses; they are stored and counted, and keep to the
limits. -/
theorem play_cases (s : Sink) (events : List Event) :
    (s.play events = ⟨events, s.having events, none⟩ ∧ (s.WithinLimits → (s.having events).WithinLimits)) ∨
      ∃ taken ev r f s', events = taken ++ ev :: r ∧ s.play events = ⟨taken, s', some f⟩ ∧
        (s.WithinLimits → (s.having taken).WithinLimits) ∧ (s.having taken).Refuses ev f s' := by
  induction events generalizing s with
  | nil => exact .inl (by rw [having_nil]; exact ⟨rfl, id⟩)
  | cons ev r ih =>
    rcases s.meet_cases ev with ⟨hm, hlimits⟩ | ⟨f, s', hm, hr⟩
    · rw [play_of_ok hm]
      rcases ih (s.having [ev]) with ⟨hp, hkept⟩ | ⟨taken, ev', r', f, s', rfl, hp, hkept, hr⟩
      · rw [having_having] at hp hkept
        exact .inl ⟨by rw [hp]; rfl, hkept ∘ hlimits⟩
      · rw [having_having] at hkept hr
        exact .inr ⟨ev :: taken, ev', r', f, s', rfl, by rw [hp]; rfl, hkept ∘ hlimits, hr⟩
    · rw [play_of_error hm]
      exact .inr ⟨[], ev, r, f, s', rfl, rfl, by rw [having_nil]; exact id, by rwa [having_nil]⟩

/-- A sink that refused something meets nothing more. -/
theorem play_append_of_fault {f : Fault} {x : List Event} (h : (s.play x).fault = some f) (y : List Event) :
    s.play (x ++ y) = s.play x := by
  induction x generalizing s with
  | nil => cases h
  | cons ev x ih =>
    rcases s.meet_cases ev with ⟨hm, -⟩ | ⟨g, s', hm, -⟩
    · rw [play_of_ok hm] at h
      rw [List.cons_append, play_of_ok hm, play_of_ok hm, ih h]
    · rw [List.cons_append, play_of_error hm, play_of_error hm]

/-- A sink that took everything goes on with what follows. -/
theorem play_append_of_none {x : List Event} (h : (s.play x).fault = none) (y : List Event) : s.play (x ++ y) =
    { (s.play x).sink.play y with taken := (s.play x).taken ++ ((s.play x).sink.play y).taken } := by
  induction x generalizing s with
  | nil => rfl
  | cons ev x ih =>
    rcases s.meet_cases ev with ⟨hm, -⟩ | ⟨f, s', hm, -⟩
    · rw [play_of_ok hm] at h
      rw [List.cons_append, play_of_ok hm, play_of_ok hm, ih h]
      rfl
    · rw [play_of_error hm] at h
      cases h

theorem taken_play_isPrefix (s : Sink) (events : List Event) : (s.play events).taken <+: events := by
  rcases s.play_cases events with ⟨hp, -⟩ | ⟨taken, ev, r, f, s', rfl, hp, -, -⟩
  · simp [hp]
  · rw [hp]
    exact List.prefix_append _ _

/-! ## Limits -/

/-- A sink without limits takes everything. -/
theorem play_boundless (hn : s.writeLimit = none) (hm : s.flushLimit = none) (events : List Event) :
    s.play events = ⟨events, s.having events, none⟩ := by
  rcases s.play_cases events with ⟨hp, -⟩ | ⟨taken, ev, r, f, s', -, -, -, hr⟩
  · exact hp
  · cases hr with
    | full limit => exact nomatch hn.symm.trans limit
    | flushFailed limit => exact nomatch hm.symm.trans limit

/-- A sink with room for `n` bytes stores the first `n`, and refuses exactly if there are more. -/
theorem play_writeLimit {n : Nat} (hn : s.writeLimit = some n) (hm : s.flushLimit = none) (fits : s.WithinLimits)
    (events : List Event) : (s.play events).sink.stored = (s.stored ++ written events).take n ∧
      ((s.play events).fault = none ↔ (s.stored ++ written events).length ≤ n) := by
  rcases s.play_cases events with ⟨hp, hlimits⟩ | ⟨taken, ev, r, f, s', rfl, hp, -, hr⟩
  · have hle : (s.stored ++ written events).length ≤ n := (hlimits fits).bytes n hn
    rw [hp]
    exact ⟨(List.take_of_length_le hle).symm, iff_of_true rfl hle⟩
  · rw [hp]
    cases hr with
    | @full b n' limit beyond =>
      obtain rfl : n = n' := Option.some.inj (hn.symm.trans limit)
      have total : s.stored ++ written (taken ++ .wrote b :: r) = (s.having taken).stored ++ b ++ written r := by
        simp [having, written, Event.bytes]
      rw [total]
      refine ⟨(List.take_append_of_le_length (Nat.le_of_lt beyond)).symm, iff_of_false nofun fun hle => ?_⟩
      rw [List.length_append] at hle
      omega
    | flushFailed limit => exact nomatch hm.symm.trans limit

/-- A sink that allows `m` flushes stores what it took, and refuses exactly if there are more, namely the next one. -/
theorem play_flushLimit {m : Nat} (hn : s.writeLimit = none) (hm : s.flushLimit = some m) (fits : s.WithinLimits)
    (events : List Event) : (s.play events).sink.stored = s.stored ++ written (s.play events).taken ∧
      ((s.play events).fault = none ↔ s.flushes + flushCount events ≤ m) ∧
      ((s.play events).fault ≠ none → s.flushes + flushCount (s.play events).taken = m ∧
        ∃ r, events = (s.play events).taken ++ .flushed :: r) := by
  rcases s.play_cases events with ⟨hp, hlimits⟩ | ⟨taken, ev, r, f, s', rfl, hp, hlimits, hr⟩
  · have hle : s.flushes + flushCount events ≤ m := (hlimits fits).flushes m hm
    rw [hp]
    exact ⟨rfl, iff_of_true rfl hle, fun h => absurd rfl h⟩
  · rw [hp]
    cases hr with
    | full limit => exact nomatch hn.symm.trans limit
    | @flushFailed m' limit beyond =>
      obtain rfl : m = m' := Option.some.inj (hm.symm.trans limit)
      have atLimit : s.flushes + flushCount taken = m :=
        Nat.le_antisymm ((hlimits fits).flushes m limit) beyond
      have total : flushCount (taken ++ .flushed :: r) = flushCount taken + (flushCount r + 1) := by
        rw [flushCount_append, show flushCount (.flushed :: r) = flushCount r + 1 from List.countP_cons_of_pos rfl]
      refine ⟨rfl, iff_of_false nofun fun hle => ?_, fun _ => ⟨atLimit, r, rfl⟩⟩
      omega

end Sink

end PaymentDesk
