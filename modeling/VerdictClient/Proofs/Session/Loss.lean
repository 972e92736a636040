import VerdictClient.Proofs.Session.EndOfReading
import VerdictClient.Proofs.Session.Connecting

namespace VerdictClient.Session

variable {τ : Type} [Clock τ]

def Loses (s : Session τ) (e : Event τ) : Prop :=
  e = .reader ∧ s.state = .authenticated ∧ ∃ cause, s.reader = .report cause

/-- The session becomes an authenticated one when nobody reads any more. -/
def EntersLate (s : Session τ) (e : Event τ) : Prop :=
  Enters s e ∧ s.reader = .ended

variable {s : Session τ} {n : Nat} {e : Event τ} {cause : ClosedCause}
variable {settings : Settings τ} {files : FileSystem} {es : List (Event τ)}

/-- An authenticated session stays one until somebody closes it or its connection is lost. -/
theorem authenticated_step (h : Handshake s) (hs : s.state = .authenticated) (e : Event τ) :
    (s.step e).state = .authenticated ∨ Closes s e ∨ Loses s e := by
  obtain hsame | hturn := s.status_step e
  · exact .inl ((congrArg Status.state hsame).trans hs)
  · generalize (s.step e).status = x at hturn
    cases hturn with
    | connect _ hd => cases hd.symm.trans hs
    | enter _ hc | fail _ _ hc => cases hc.symm.trans hs
    | breakOff hp hc => exact absurd hc ((h.admitted hs).2 _ _ hp)
    | close hp => exact .inr (.inl ⟨_, rfl, hp⟩)
    | lose hr => exact .inr (.inr ⟨rfl, hs, _, hr⟩)

theorem not_authenticated_of_report (h : s.reader = .report cause) :
    (s.step .reader).state ≠ .authenticated := by
  simp only [step, readerStep, h, reportLoss]
  split
  · intro hc
    cases hc
  · next hs => exact hs

theorem ended_step (h : ((start settings files).run es).reader = .ended) (e : Event τ) :
    (((start settings files).run es).step e).reader = .ended := by
  cases reader_turn ((start settings files).run es) e with
  | stay _ hs => exact hs.trans h
  | begin _ _ hp => cases (idle_of_announce hp).symm.trans h
  | stop _ hs | failWaiter _ hs | failRequests _ hs | report _ hs => cases hs.symm.trans h

theorem entersLate_of_ended (hr : ((start settings files).run es).reader = .ended)
    (ha : ((start settings files).run es).state = .authenticated) :
    Occurs EntersLate (start settings files) es := by
  induction es using List.reverseRecOn with
  | nil => cases ha
  | append_singleton es e ih =>
    rw [run_concat] at hr ha
    have hended : ((start settings files).run es).reader = .ended := by
      cases reader_turn ((start settings files).run es) e with
      | stay _ hs => exact hs.symm.trans hr
      | begin _ _ _ hs | stop _ _ hs | failWaiter _ _ hs | failRequests _ _ hs =>
        cases hs.symm.trans hr
      | report he hs =>
        -- The step in which the reader ends does not leave an authenticated session.
        subst he
        exact absurd ha (not_authenticated_of_report hs)
    by_cases hs : ((start settings files).run es).state = .authenticated
    · exact (ih hended hs).concat e
    · exact occurs_concat.2 (.inr ⟨⟨hs, ha⟩, hended⟩)

theorem authenticated_of_entersLate (h : Occurs EntersLate (start settings files) es)
    (hc : ¬Occurs Closes (start settings files) es) :
    ((start settings files).run es).reader = .ended ∧
      ((start settings files).run es).state = .authenticated := by
  induction es using List.reverseRecOn with
  | nil => exact absurd h not_occurs_nil
  | append_singleton es e ih =>
    rw [run_concat]
    obtain h | ⟨⟨-, ha⟩, hr⟩ := occurs_concat.1 h
    · obtain ⟨hr, hs⟩ := ih h fun h' ↦ hc (h'.concat e)
      refine ⟨ended_step hr e, ?_⟩
      obtain ha | hcl | ⟨-, -, cause, hreport⟩ :=
        authenticated_step (handshake_run settings files es) hs e
      · exact ha
      · exact absurd (occurs_concat.2 (.inr hcl)) hc
      · cases hreport.symm.trans hr
    · exact ⟨ended_step hr e, ha⟩

theorem Enters.caller (h : Enters s e) :
    ∃ n r, e = .move n .go ∧ s.callers[n]? = some (.enter r) ∧
      (s.step e).callers[n]? = some (.ended (.ok none)) := by
  obtain ⟨hne, ha⟩ := h
  obtain hsame | hturn := s.status_step e
  · exact absurd ((congrArg Status.state hsame).symm.trans ha) hne
  · generalize hx : (s.step e).status = x at hturn
    have hstate : x.state = .authenticated := (congrArg Status.state hx).symm.trans ha
    cases hturn with
    | enter hp hc hid =>
      refine ⟨_, _, rfl, hp, ?_⟩
      rw [caller_move hp]
      simp only [moved, enterStep, hid, hc, if_true]
    | connect | fail | breakOff | close | lose => cases hstate

theorem returned_of_enters (h : Occurs Enters (start settings files) es) :
    ∃ n, Occurs (Attempts n) (start settings files) es ∧
      ((start settings files).run es).callers[n]? = some (.ended (.ok none)) := by
  induction es using List.reverseRecOn with
  | nil => exact absurd h not_occurs_nil
  | append_singleton es e ih =>
    rw [run_concat]
    obtain h | h := occurs_concat.1 h
    · obtain ⟨n, hn, hp⟩ := ih h
      exact ⟨n, hn.concat e, ended_stays hp e⟩
    · obtain ⟨n, r, rfl, hp, hp'⟩ := h.caller
      exact ⟨n, (attempts_of_isAttempt hp (.inl trivial)).concat _, hp'⟩

theorem enters_of_authenticated (h : ((start settings files).run es).state = .authenticated) :
    Occurs Enters (start settings files) es := by
  by_contra hne
  exact ((entered_run settings files es).1 hne).2 h

/-- A session is authenticated with its reader at its end if and only if it became an authenticated one
after that end and nobody has closed it; the attempt to connect has returned then as if the session
could be used. Every attempt that was granted an id and has not noticed it when the reader ends does
that with its next step. -/
theorem authenticated_without_reader (settings : Settings τ) (files : FileSystem)
    (es : List (Event τ)) :
    (((start settings files).run es).reader = .ended ∧
        ((start settings files).run es).state = .authenticated ↔
      Occurs EntersLate (start settings files) es ∧ ¬Occurs Closes (start settings files) es) ∧
    (((start settings files).run es).state = .authenticated →
      ∃ n, Occurs (Attempts n) (start settings files) es ∧
        ((start settings files).run es).callers[n]? = some (.ended (.ok none))) ∧
    ∀ n r id, ((start settings files).run es).callers[n]? = some (.enter r) →
      grantedId? r = some id → ((start settings files).run es).reader = .ended →
      ¬Occurs Closes (start settings files) es →
      EntersLate ((start settings files).run es) (.move n .go) := by
  refine ⟨⟨fun ⟨hr, ha⟩ ↦ ⟨entersLate_of_ended hr ha, fun hc ↦ ?_⟩,
    fun ⟨hl, hc⟩ ↦ authenticated_of_entersLate hl hc⟩, fun ha ↦ ?_, fun n r id hp hid hr hc ↦ ?_⟩
  · cases (closed_of_closes hc).symm.trans ha
  · exact returned_of_enters (enters_of_authenticated ha)
  · obtain ⟨q, hq, hst⟩ := attempted_run (attempts_of_isAttempt hp (.inl trivial))
    obtain rfl : q = .enter r := Option.some_inj.1 (hq.symm.trans hp)
    have hconnecting : ((start settings files).run es).state = .connecting :=
      hst.resolve_right fun h ↦ hc h.2
    refine ⟨⟨by simp [hconnecting], ?_⟩, hr⟩
    rw [step_move hp]
    simp only [moved, enterStep, hid, hconnecting, if_true]
    rfl

def Sample.deafness : List (Event Int) :=
  opening.take 7 ++ [.lost .closedByPeer, .reader, .reader, .reader, .move 0 .go, .move 0 .go]

set_option maxRecDepth 100000 in
theorem Sample.deafness_ended :
    ((start Sample.settings .empty).run Sample.deafness).reader = .ended ∧
      ((start Sample.settings .empty).run Sample.deafness).state = .authenticated ∧
      ((start Sample.settings .empty).run Sample.deafness).callers[0]? = some (.ended (.ok none)) := by
  exact ⟨rfl, rfl, rfl⟩

theorem authenticated_without_reader_deafness :
    Occurs EntersLate (start Sample.settings .empty) Sample.deafness ∧
      ¬Occurs Closes (start Sample.settings .empty) Sample.deafness := by
  obtain ⟨hr, ha, -⟩ := Sample.deafness_ended
  exact (authenticated_without_reader Sample.settings .empty Sample.deafness).1.1 ⟨hr, ha⟩

/-- An attempt may end with the session authenticated and nobody reading. -/
theorem not_always_noticed : ¬∀ (es : List (Event Int)) (n : Nat)
    (r : Except Error (Option Classification)),
    Occurs (Attempts n) (start Sample.settings .empty) es →
    ((start Sample.settings .empty).run es).callers[n]? = some (.ended r) →
    ((start Sample.settings .empty).run es).reader = .ended →
    ((start Sample.settings .empty).run es).state ≠ .authenticated := by
  intro h
  obtain ⟨hr, ha, hn⟩ := Sample.deafness_ended
  have hattempt : Occurs (Attempts 0) (start Sample.settings .empty) Sample.deafness :=
    ⟨[.call (.connect (.text "t"))], .move 0 .go, _, rfl, rfl, rfl, _, rfl⟩
  exact h Sample.deafness 0 _ hattempt hn hr ha

end VerdictClient.Session
