import VerdictClient.Proofs.Receiver.Loop
import VerdictClient.Proofs.Session.Connection
import VerdictClient.Proofs.Session.Reading
import VerdictClient.Proofs.Session.Shut

namespace VerdictClient.Session

variable {τ : Type} [Clock τ]

def reports (s : Session τ) (es : List (Event τ)) : List ClosedCause := observed report? s es

def FailsRequests (cause : ClosedCause) (s : Session τ) (e : Event τ) : Prop :=
  e = .reader ∧ s.reader = .failRequests cause

/-- What has been done when the reader stands where it does. -/
def Reader.Done (expecting : Option Nat) (failed : ClosedCause → Prop) (told : List ClosedCause) :
    Reader → Prop
  | .idle | .reading | .failWaiter _ => told = []
  | .failRequests _ => told = [] ∧ expecting = none
  | .report cause => told = [] ∧ expecting = none ∧ failed cause
  | .ended => ∃ cause, told = [cause] ∧ expecting = none ∧ failed cause

variable {s : Session τ} {n : Nat} {e : Event τ} {cause : ClosedCause}
variable {settings : Settings τ} {files : FileSystem} {es : List (Event τ)}

omit [Clock τ] in
theorem FailsRequests.shuts (h : FailsRequests cause s e) : Shuts s e :=
  .inr ⟨cause, h⟩

theorem waiters_ne_nil (settings : Settings τ) (files : FileSystem) (es : List (Event τ))
    (h : ((start settings files).run es).reader ≠ .idle) :
    ((start settings files).run es).receiver.waiters ≠ [] := by
  induction es using List.reverseRecOn with
  | nil => exact absurd rfl h
  | append_singleton es e ih =>
    rw [run_concat] at h ⊢
    have hkeep (hr : ((start settings files).run es).reader ≠ .idle) :
        (((start settings files).run es).step e).receiver.waiters ≠ [] := by
      have hw := ih hr
      obtain hc | ⟨m, x, -, hr⟩ | ⟨-, hr⟩ := receiver_step ((start settings files).run es) e
      · intro hnil
        have hlen := hc.length_eq
        rw [hnil] at hlen
        exact hw (List.length_eq_zero_iff.1 hlen.symm)
      · simp [hr, Receiver.expectAuth]
      · rw [hr]
        exact hw
    cases reader_turn ((start settings files).run es) e with
    | stay _ hs => exact hkeep (hs ▸ h)
    | begin _ _ _ _ hw => exact hw
    | stop _ hs | failWaiter _ hs | failRequests _ hs | report _ hs => exact hkeep (by simp [hs])

theorem idle_of_announce {x : Value}
    (hp : ((start settings files).run es).callers[n]? = some (.announce x)) :
    ((start settings files).run es).reader = .idle := by
  by_contra hr
  have hnil := List.length_eq_zero_iff.1 ((handshake_run settings files es).stands hp trivial)
  exact waiters_ne_nil settings files es hr hnil

theorem expecting_step (settings : Settings τ) (files : FileSystem) (es : List (Event τ)) (e : Event τ)
    (hr : ((start settings files).run es).reader ≠ .idle)
    (he : ((start settings files).run es).receiver.expecting = none) :
    (((start settings files).run es).step e).receiver.expecting = none := by
  obtain hc | ⟨m, x, hp, -⟩ | ⟨-, hs⟩ := receiver_step ((start settings files).run es) e
  · cases hc with
    | keep _ h => exact h.trans he
    | settle hw => cases he.symm.trans hw
  · exact absurd (idle_of_announce hp) hr
  · rw [hs]

theorem done_run (settings : Settings τ) (files : FileSystem) (es : List (Event τ)) :
    ((start settings files).run es).reader.Done ((start settings files).run es).receiver.expecting
      (fun c ↦ Occurs (FailsRequests c) (start settings files) es)
      (reports (start settings files) es) := by
  induction es using List.reverseRecOn with
  | nil => rfl
  | append_singleton es e ih =>
    have hnone (hr : report? ((start settings files).run es) e = none) :
        reports (start settings files) (es ++ [e]) = reports (start settings files) es :=
      observed_concat_none hr
    rw [run_concat]
    have hexp := expecting_step settings files es e
    cases reader_turn ((start settings files).run es) e with
    | stay hr hs =>
      rw [hs, hnone hr]
      cases hread : ((start settings files).run es).reader with
      | idle | reading | failWaiter =>
        rw [hread] at ih
        exact ih
      | failRequests c =>
        rw [hread] at ih
        exact ⟨ih.1, hexp (by simp [hread]) ih.2⟩
      | report c =>
        rw [hread] at ih
        exact ⟨ih.1, hexp (by simp [hread]) ih.2.1, ih.2.2.concat e⟩
      | ended =>
        rw [hread] at ih
        obtain ⟨c, htold, he, hf⟩ := ih
        exact ⟨c, htold, hexp (by simp [hread]) he, hf.concat e⟩
    | begin hr he hp hs =>
      rw [idle_of_announce hp] at ih
      rw [hs, hnone hr]
      exact ih
    | stop hr hread hs =>
      rw [hread] at ih
      rw [hs, hnone hr]
      exact ih
    | failWaiter hr hread hs hx =>
      rw [hread] at ih
      rw [hs, hnone hr]
      exact ⟨ih, hx⟩
    | @failRequests c he hread hs =>
      rw [hread] at ih
      rw [hs, hnone (by simp [he, report?, hread])]
      exact ⟨ih.1, hexp (by simp [hread]) ih.2, occurs_concat.2 (.inr ⟨he, hread⟩)⟩
    | @report c he hread hs =>
      rw [hread] at ih
      have htold : reports (start settings files) (es ++ [e]) = [c] := by
        rw [reports, observed_concat, ← reports, ih.1, he]
        simp [report?, hread]
      rw [hs, htold]
      exact ⟨c, rfl, hexp (by simp [hread]) ih.2.1, ih.2.2.concat e⟩

theorem ticket_of_failsRequests {k : Nat} {t : Ticket τ} (h : FailsRequests cause s e)
    (hk : s.correlator.IsWaiting k) (ht : s.correlator.ticket? k = some t) :
    (s.step e).correlator.ticket? k = some (t.settle (.failed (.closed cause))) := by
  obtain ⟨rfl, hr⟩ := h
  have hc : (s.step .reader).correlator = s.correlator.failAll cause := by
    simp only [step, readerStep, hr]
    rfl
  obtain ⟨g, hg⟩ := hk
  have hmem : k ∈ s.correlator.pending.map Prod.snd := List.mem_map.2 ⟨(g, k), hg, rfl⟩
  rw [hc, Correlator.ticket?_failAll, ht, Option.map_some, if_pos hmem]

/-- What the session is like when it is told that reading has ended. -/
structure Deserted (settings : Settings τ) (files : FileSystem) (es : List (Event τ))
    (cause : ClosedCause) : Prop where
  failed : Occurs (FailsRequests cause) (start settings files) es
  pending : ((start settings files).run es).correlator.pending = []
  closed : ∀ moment g timeout fo, ∃ c,
    ((start settings files).run es).correlator.register moment g timeout fo = .error (.closed c)
  told : ∀ o ∈ ((start settings files).run es).receiver.waiters, o.IsTold ∧
    (o = .pending → Occurs Smothers (start settings files) es)

theorem deserted (hf : Occurs (FailsRequests cause) (start settings files) es)
    (he : ((start settings files).run es).receiver.expecting = none) :
    Deserted settings files es cause := by
  have hshut : Occurs Shuts (start settings files) es := by
    obtain ⟨es₁, e, es₂, hes, h⟩ := hf
    exact ⟨es₁, e, es₂, hes, h.shuts⟩
  have hwaits := waits_run settings files es
  refine ⟨hf, pending_of_shuts hshut, fun moment g timeout fo ↦ ?_, fun o ho ↦ ⟨hwaits.told o ho, ?_⟩⟩
  · obtain ⟨c, hc⟩ := Option.isSome_iff_exists.1 (closed_of_shuts hshut)
    exact ⟨c, by simp only [Correlator.register, hc]⟩
  · rintro rfl
    obtain ⟨w, hw⟩ := List.mem_iff_getElem?.1 ho
    obtain hexp | hs := hwaits.waiting w hw
    · cases he.symm.trans hexp
    · exact hs

/-- The end of reading leaves nobody waiting but a waiter whose answer nests too deep to be read. The
first part is about a loop with its receiver, the second about the order in which the reader of a
session goes on: by the time it reports the end, once, everything else has been done. -/
theorem reading_leaves_nobody (now : τ) :
    (∀ es : List (Receiver.Event τ), es.countP Receiver.Event.isExpectAuth ≤ 1 →
      (Receiver.Loop.start.run now es).ended = true →
      ∃ es₁ e es₂ c, es = es₁ ++ e :: es₂ ∧ (Receiver.Loop.start.run now es₁).ended = false ∧
        (Receiver.Loop.start.run now es).reports = [c] ∧
        (Receiver.Loop.start.run now es).receiver.correlator.pending = [] ∧
        (∀ moment g timeout fo, (Receiver.Loop.start.run now es).receiver.correlator.register moment
          g timeout fo = .error (.closed c)) ∧
        (∀ k, (Receiver.Loop.start.run now es).receiver.correlator.ticket? k =
          ((Receiver.Loop.start.run now es₁).receiver.correlator.ticket? k).map
            (Ticket.settle (.failed (.closed c)))) ∧
        ∀ o ∈ (Receiver.Loop.start.run now es).receiver.waiters, o.IsTold ∧
          (o = .pending ↔
            ∃ f, e = .frame f ∧ Receiver.Smothers f (Receiver.Loop.start.run now es₁).receiver)) ∧
    ∀ (settings : Settings τ) (files : FileSystem) (es : List (Event τ)),
      (∀ c, ((start settings files).run es).reader = .report c →
        reports (start settings files) es = [] ∧ Deserted settings files es c) ∧
      (((start settings files).run es).reader = .ended →
        ∃ c, reports (start settings files) es = [c] ∧ Deserted settings files es c) ∧
      ∀ c e k t, FailsRequests c ((start settings files).run es) e →
        ((start settings files).run es).correlator.IsWaiting k →
        ((start settings files).run es).correlator.ticket? k = some t →
        ((start settings files).run (es ++ [e])).correlator.ticket? k =
          some (t.settle (.failed (.closed c))) := by
  refine ⟨fun es hes hend ↦ Receiver.Loop.ended_run now es hes hend, fun settings files es ↦ ?_⟩
  have hdone := done_run settings files es
  refine ⟨?_, ?_, fun c e k t hf hk ht ↦ run_concat (start settings files) es e ▸
    ticket_of_failsRequests hf hk ht⟩
  · intro c hc
    rw [hc] at hdone
    obtain ⟨htold, he, hf⟩ := hdone
    exact ⟨htold, deserted hf he⟩
  · intro hend
    rw [hend] at hdone
    obtain ⟨c, htold, he, hf⟩ := hdone
    exact ⟨c, htold, deserted hf he⟩

def Sample.abyss : Frame := .text (List.replicate 1000 (.char '['))

def Sample.plunge : List (Receiver.Event Int) :=
  [.expectAuth, .register "g" (.after 10) false, .frame abyss]

theorem Sample.plunge_outcome : (Receiver.Loop.start.run 0 Sample.plunge).ended = true ∧
    .pending ∈ (Receiver.Loop.start.run 0 Sample.plunge).receiver.waiters :=
  ⟨by decide +kernel, by decide +kernel⟩

def Sample.rupture : List (Event Int) := opening ++ [.lost .closedByPeer, .reader, .reader, .reader]

set_option maxRecDepth 100000 in
theorem Sample.rupture_ended : ((start Sample.settings .empty).run Sample.rupture).reader = .ended := by
  rfl

theorem reading_leaves_nobody_plunge :
    (∃ c, (Receiver.Loop.start.run 0 Sample.plunge).reports = [c]) ∧
      ∃ c, reports (start Sample.settings .empty) Sample.rupture = [c] ∧
        Deserted Sample.settings .empty Sample.rupture c := by
  obtain ⟨hloop, hsession⟩ := reading_leaves_nobody (0 : Int)
  constructor
  · obtain ⟨-, -, -, c, -, -, hc, -⟩ := hloop Sample.plunge (by decide) Sample.plunge_outcome.1
    exact ⟨c, hc⟩
  · exact (hsession Sample.settings .empty Sample.rupture).2.1 Sample.rupture_ended

/-- A waiter whose frame nests too deep may be left waiting at the end of reading. -/
theorem not_always_told : ¬∀ es : List (Receiver.Event Int),
    es.countP Receiver.Event.isExpectAuth ≤ 1 → (Receiver.Loop.start.run 0 es).ended = true →
    ∀ o ∈ (Receiver.Loop.start.run 0 es).receiver.waiters, o ≠ .pending := by
  intro h
  obtain ⟨hend, hwait⟩ := Sample.plunge_outcome
  exact h Sample.plunge (by decide) hend _ hwait rfl

end VerdictClient.Session
