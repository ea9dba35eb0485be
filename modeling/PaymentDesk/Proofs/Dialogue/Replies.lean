import PaymentDesk.Proofs.Dialogue.Silent
import PaymentDesk.Proofs.Dialogue.Steps

/-!
# What a transport has a part in

Every reply in the steps of a dialogue is one that the transport gives to that request in some state that it gets into
(`Dialogue.sent_of_steps`). What a dialogue adds to the log are the records in its steps and those that the transport
writes (`Dialogue.log_of_steps`).
-/

namespace PaymentDesk.Dialogue

open Text

variable {σ α : Type} {e : Setting σ} {d : Dialogue α} {w : World σ}

/-- The replies in a dialogue are those that the transport gives. -/
theorem sent_of_steps {I : σ → Prop} (he : ∀ q s, I s → I (e.transport.send q s).2.2) {q : Request} {reply : Reply}
    (h : .sent q reply ∈ d.steps e w) (hI : I w.transport) : ∃ s, I s ∧ (e.transport.send q s).1 = reply := by
  induction d generalizing w with
  | done a => cases h
  | fail err => cases h
  | write p t next ih =>
    rw [steps] at h
    split at h
    · exact ih ((List.mem_cons.mp h).resolve_left (by simp)) hI
    · cases List.mem_singleton.mp h
  | flush next ih =>
    rw [steps] at h
    split at h
    · exact ih ((List.mem_cons.mp h).resolve_left (by simp)) hI
    · cases List.mem_singleton.mp h
  | read next ih =>
    rw [steps] at h
    split at h
    · exact ih none ((List.mem_cons.mp h).resolve_left (by simp)) hI
    · have h := (List.mem_cons.mp h).resolve_left (by simp)
      split at h
      · exact ih _ h hI
      · cases h
  | note r next ih => exact ih ((List.mem_cons.mp h).resolve_left (by simp)) hI
  | time next ih => exact ih _ h hI
  | send r next ih =>
    rcases List.mem_cons.mp h with h | h
    · cases h
      exact ⟨w.transport, hI, rfl⟩
    · exact ih _ h (he r w.transport hI)

/-- A transport whose replies satisfy a condition gives only such replies in a dialogue. -/
theorem reply_of_sent {I : σ → Prop} {P : Reply → Prop} (he : Answers e I P) {q : Request} {reply : Reply}
    (h : .sent q reply ∈ d.steps e w) (hI : I w.transport) : P reply := by
  obtain ⟨s, hs, rfl⟩ := sent_of_steps (fun q s hs => (he q s hs).2) h hI
  exact (he q s hs).1

/-- What a dialogue adds to the log, it noted itself or the transport did. -/
theorem log_of_steps {R : Log.Record → Prop} (he : ∀ q s, ∀ record ∈ (e.transport.send q s).2.1, R record)
    (h : ∀ record, .noted record ∈ d.steps e w → R record) :
    ∃ records, (d.run e w).2.log = w.log ++ records ∧ ∀ record ∈ records, R record := by
  have nothing : ∃ records, w.log = w.log ++ records ∧ ∀ record ∈ records, R record :=
    ⟨[], (List.append_nil _).symm, List.forall_mem_nil _⟩
  induction d generalizing w with
  | done a => exact nothing
  | fail err => exact nothing
  | write p t next ih =>
    simp only [steps, run] at h ⊢
    rcases hs : w.sink.write (Utf8.encode t) with ⟨f | ⟨⟩, s⟩
    · exact nothing
    · rw [hs] at h
      exact ih (w := { w with sink := s }) (fun record hr => h record (List.mem_cons_of_mem _ hr)) nothing
  | flush next ih =>
    simp only [steps, run] at h ⊢
    rcases hs : w.sink.flush with ⟨f | ⟨⟩, s⟩
    · exact nothing
    · rw [hs] at h
      exact ih (w := { w with sink := s }) (fun record hr => h record (List.mem_cons_of_mem _ hr)) nothing
  | read next ih =>
    simp only [steps, run] at h ⊢
    cases hi : w.input with
    | nil =>
      rw [hi] at h
      exact ih none (fun record hr => h record (List.mem_cons_of_mem _ hr)) nothing
    | cons bytes rest =>
      rw [hi] at h
      simp only at h ⊢
      cases hl : Utf8.decode? bytes with
      | none => exact nothing
      | some l =>
        rw [hl] at h
        have hrest : ∀ record, .noted record ∈ (next (some l)).steps e { w with input := rest } → R record :=
          fun record hr => h record (List.mem_cons_of_mem _ hr)
        exact ih (some l) hrest nothing
  | note r next ih =>
    obtain ⟨records, hlog, hall⟩ := ih (w := { w with log := w.log ++ [r] })
      (fun record hr => h record (List.mem_cons_of_mem _ hr)) ⟨[], (List.append_nil _).symm, List.forall_mem_nil _⟩
    refine ⟨r :: records, ?_, List.forall_mem_cons.mpr ⟨h r List.mem_cons_self, hall⟩⟩
    rw [run, hlog, List.append_assoc, List.singleton_append]
  | time next ih => exact ih _ (w := { w with ticks := w.ticks + 1 }) h nothing
  | send q next ih =>
    rcases hs : e.transport.send q w.transport with ⟨reply, sent, s⟩
    simp only [steps, run, hs] at h ⊢
    obtain ⟨records, hlog, hall⟩ := ih reply (w := { w with log := w.log ++ sent, transport := s })
      (fun record hr => h record (List.mem_cons_of_mem _ hr)) ⟨[], (List.append_nil _).symm, List.forall_mem_nil _⟩
    have hsent := he q w.transport
    rw [hs] at hsent
    refine ⟨sent ++ records, ?_, List.forall_mem_append.mpr ⟨hsent, hall⟩⟩
    rw [hlog, List.append_assoc]

end PaymentDesk.Dialogue
