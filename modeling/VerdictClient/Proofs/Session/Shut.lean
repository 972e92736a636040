import VerdictClient.Proofs.Session.Isolation

namespace VerdictClient

/-- No answer comes for the ticket: its request was given up, or the connection is closed. -/
def Ticket.IsLost {τ : Type} (t : Ticket τ) : Prop :=
  t.outcome = .cancelled ∨ ∃ c, t.outcome = .failed (.closed c)

namespace Correlator

variable {τ : Type} {c : Correlator τ}

def FailsClosed (c : Correlator τ) : Prop :=
  ∀ n t r, c.ticket? n = some t → t.outcome = .failed r → ∃ cause, r = .closed cause

theorem FailsClosed.after (h : c.FailsClosed) (hs : c.Sound) (a : Act τ) :
    (c.after a).FailsClosed := by
  intro n t r ht hr
  obtain ⟨u, hu⟩ | ho := ticket?_of_after ht
  · have hkeep (ho : u.outcome = t.outcome) : ∃ cause, r = .closed cause :=
      h n u r hu (ho.trans hr)
    by_cases hw : c.IsWaiting n
    · obtain ⟨o, hout, -, ht'⟩ | ⟨-, -, ht'⟩ | ⟨-, -, ht'⟩ := hs.after_of_waiting hu hw a
      all_goals obtain rfl := Option.some_inj.1 (ht'.symm.trans ht)
      · obtain rfl : o = .failed r := hr
        cases a with
        | failAll cause =>
          have hcause : Error.closed cause = r := Future.failed.inj (Option.some_inj.1 hout)
          exact ⟨cause, hcause.symm⟩
        | resolve | discard =>
          simp only [Act.outcome?] at hout
          split at hout <;> cases hout
        | enroll | restart | forget => cases hout
      · exact hkeep rfl
      · exact hkeep rfl
    · obtain ⟨-, ht'⟩ := hs.after_of_not_waiting hu hw a
      obtain rfl := Option.some_inj.1 (ht'.symm.trans ht)
      exact hkeep rfl
  · cases ho.symm.trans hr

def HasFailed (n : Nat) (c : Correlator τ) : Prop :=
  ∃ t cause, c.ticket? n = some t ∧ t.outcome = .failed (.closed cause)

end Correlator

namespace Session

variable {τ : Type} [Clock τ] {s : Session τ} {e : Event τ} {n k : Nat}

theorem Shuts.correlator (h : Shuts s e) :
    ∃ cause, (s.step e).correlator = s.correlator.failAll cause := by
  obtain ⟨n, b₁, b₂, rfl, hp⟩ | ⟨cause, rfl, hr⟩ := h
  · exact ⟨.sessionClosed, by rw [step_move hp]; rfl⟩
  · exact ⟨cause, by simp only [step, readerStep, hr]; rfl⟩

theorem caller_of_shuts (h : Shuts s e) {p : Phase τ} (hp : s.callers[n]? = some p) (ha : p.IsAsk) :
    (s.step e).callers[n]? = some p := by
  obtain ⟨hp', -⟩ | ⟨sig, rfl, -⟩ := callers_step hp e
  · exact hp'
  · obtain ⟨m, b₁, b₂, hm, hfail⟩ | ⟨c, hm, -⟩ := h
    · obtain rfl := (Event.move.inj hm).1
      obtain rfl := Option.some_inj.1 (hp.symm.trans hfail)
      exact ha.elim
    · cases hm

theorem closed_correlator_step (h : s.correlator.closed.isSome) (e : Event τ) :
    (s.step e).correlator.closed.isSome := by
  obtain ⟨he, -⟩ | ⟨a, -, he⟩ := s.correlator_step e
  · rwa [he]
  · obtain ⟨c, hc⟩ := Option.isSome_iff_exists.1 h
    simp [he, Correlator.closed_after, hc]

theorem closed_of_shuts {es : List (Event τ)} (h : Occurs Shuts s es) :
    (s.run es).correlator.closed.isSome := by
  induction es using List.reverseRecOn with
  | nil => exact absurd h not_occurs_nil
  | append_singleton es e ih =>
    rw [run_concat]
    obtain h | h := occurs_concat.1 h
    · exact closed_correlator_step (ih h) e
    · obtain ⟨cause, hc⟩ := h.correlator
      rw [hc]
      cases hcl : (s.run es).correlator.closed <;> simp [Correlator.failAll, hcl]

variable {settings : Settings τ} {files : FileSystem} {es : List (Event τ)} {t : Ticket τ}

theorem pending_of_shuts (h : Occurs Shuts (start settings files) es) :
    ((start settings files).run es).correlator.pending = [] :=
  (ledger_run settings files es).sound.closed (closed_of_shuts h)

theorem failsClosed_run (settings : Settings τ) (files : FileSystem) (es : List (Event τ)) :
    ((start settings files).run es).correlator.FailsClosed := by
  induction es using List.reverseRecOn with
  | nil => exact fun n t r ht _ ↦ by cases ht
  | append_singleton es e ih =>
    have hs := (ledger_run settings files es).sound
    rw [run_concat]
    obtain ⟨he, -⟩ | ⟨a, -, he⟩ := correlator_step ((start settings files).run es) e
    · exact he ▸ ih
    · exact he ▸ ih.after hs a

/-- The ticket of a caller that waits in a session that is shut has its answer or is lost. -/
theorem settled_of_shuts (h : Occurs Shuts (start settings files) es) {p : Phase τ} {j : Job τ}
    {st : Stage} (hp : ((start settings files).run es).callers[n]? = some p)
    (hh : p.hold? = some (j, st, k)) :
    ∃ t, ((start settings files).run es).correlator.ticket? k = some t ∧
      ((∃ v, t.outcome = .done v) ∨ Ticket.IsLost t) := by
  obtain ⟨-, ⟨t, ht, -, -, hw⟩, -⟩ := (ledger_run settings files es).held hp hh
  refine ⟨t, ht, ?_⟩
  cases ho : t.outcome with
  | pending =>
    obtain ⟨g, hg⟩ := hw ho
    rw [pending_of_shuts h] at hg
    cases hg
  | done v => exact .inl ⟨v, rfl⟩
  | failed r =>
    obtain ⟨c, rfl⟩ := failsClosed_run settings files es k t r ht ho
    exact .inr (.inr ⟨c, ho⟩)
  | cancelled => exact .inr (.inl ho)

theorem outcome_of_shuts (h : Occurs Shuts (start settings files) es)
    (ht : ((start settings files).run es).correlator.ticket? k = some t) (e : Event τ) :
    ∃ t', ((start settings files).run (es ++ [e])).correlator.ticket? k = some t' ∧
      t'.outcome = t.outcome := by
  have hs := (ledger_run settings files es).sound
  have hn : ¬((start settings files).run es).correlator.IsWaiting k := by
    rintro ⟨g, hg⟩
    rw [pending_of_shuts h] at hg
    cases hg
  rw [run_concat]
  obtain ⟨he, -⟩ | ⟨a, -, he⟩ := correlator_step ((start settings files).run es) e
  · exact ⟨t, he ▸ ht, rfl⟩
  · obtain ⟨-, hafter⟩ := hs.after_of_not_waiting ht hn a
    rw [← he] at hafter
    exact ⟨_, hafter, rfl⟩

theorem hasFailed_step (h : Occurs Shuts (start settings files) es)
    (hk : ((start settings files).run es).correlator.HasFailed k) (e : Event τ) :
    ((start settings files).run (es ++ [e])).correlator.HasFailed k := by
  obtain ⟨t, cause, ht, ho⟩ := hk
  obtain ⟨t', ht', ho'⟩ := outcome_of_shuts h ht e
  exact ⟨t', cause, ht', ho'.trans ho⟩

theorem hasFailed_run (h : Occurs Shuts (start settings files) es)
    (hk : ((start settings files).run es).correlator.HasFailed k) (fs : List (Event τ)) :
    ((start settings files).run (es ++ fs)).correlator.HasFailed k := by
  induction fs using List.reverseRecOn with
  | nil => rwa [List.append_nil]
  | append_singleton fs e ih =>
    rw [← List.append_assoc]
    exact hasFailed_step (h.append fs) ih e

theorem hasFailed_of_shuts (h : Shuts ((start settings files).run es) e) {p : Phase τ} {j : Job τ}
    {st : Stage} (hp : ((start settings files).run es).callers[n]? = some p)
    (hh : p.hold? = some (j, st, k))
    (ht : ((start settings files).run es).correlator.ticket? k = some t) (ho : t.outcome = .pending) :
    ((start settings files).run (es ++ [e])).correlator.HasFailed k := by
  obtain ⟨-, ⟨u, hu, -, -, hw⟩, -⟩ := (ledger_run settings files es).held hp hh
  obtain rfl : u = t := Option.some_inj.1 (hu.symm.trans ht)
  -- A ticket that is held and pending is on the map, and so it is among those that fail.
  obtain ⟨g, hg⟩ := hw ho
  obtain ⟨c, hc⟩ := h.correlator
  have hmem : k ∈ ((start settings files).run es).correlator.pending.map Prod.snd :=
    List.mem_map.2 ⟨(g, k), hg, rfl⟩
  refine ⟨u.settle (.failed (.closed c)), c, ?_, ?_⟩
  · rw [run_concat, hc, Correlator.ticket?_failAll, ht, Option.map_some, if_pos hmem]
  · rw [Ticket.settle_of_pending ho]

end Session

end VerdictClient
