import VerdictClient.Proofs.Session.Handshake

namespace VerdictClient

inductive SessionState.Next : SessionState → SessionState → Prop
  | connect : Next .disconnected .connecting
  | enter : Next .connecting .authenticated
  | fail : Next .connecting .failed
  | close (st : SessionState) : Next st .closed

namespace SessionState

variable {st st' : SessionState}

theorem Next.ne_disconnected (h : Next st st') : st' ≠ .disconnected := by
  cases h <;> simp

theorem Next.eq_closed (h : Next st st') (hs : st = .authenticated ∨ st = .failed ∨ st = .closed) :
    st' = .closed := by
  cases h with
  | close => rfl
  | connect | enter | fail => simp at hs

end SessionState

namespace Session

variable {τ : Type}

structure Status where
  state : SessionState
  sessionId : Option Text
  openings : List Opening

def status (s : Session τ) : Status := ⟨s.state, s.sessionId, s.openings⟩

/-- How an event changes the status. -/
inductive Turns (s : Session τ) : Event τ → Status → Prop
  | connect {n x o} (hp : s.callers[n]? = some (.connect x)) (hs : s.state = .disconnected) :
      Turns s (.move n .go)
        { s.status with state := .connecting, openings := s.openings ++ [o] }
  | enter {n r id} (hp : s.callers[n]? = some (.enter r)) (hs : s.state = .connecting)
      (hi : grantedId? r = some id) :
      Turns s (.move n .go) { s.status with state := .authenticated, sessionId := some id }
  | fail {n p sig} (hp : s.callers[n]? = some p) (hc : p.IsConnecting) (hs : s.state = .connecting) :
      Turns s (.move n sig) { s.status with state := .failed }
  | breakOff {n p sig} (hp : s.callers[n]? = some p) (hc : p.IsConnecting) :
      Turns s (.move n sig) { s.status with state := .closed }
  | close {n} (hp : s.callers[n]? = some .close) :
      Turns s (.move n .go) { s.status with state := .closed }
  | lose {cause} (hr : s.reader = .report cause) (hs : s.state = .authenticated) :
      Turns s .reader { s.status with state := .closed }

variable {s s' : Session τ} {n m : Nat} {p p' : Phase τ} {sig : Signal} {e : Event τ} {x : Status}

theorem Turns.next (h : Turns s e x) : SessionState.Next s.state x.state := by
  cases h with
  | connect _ hs => exact hs ▸ .connect
  | enter _ hs => exact hs ▸ .enter
  | fail _ _ hs => exact hs ▸ .fail
  | breakOff | close | lose => exact .close _

theorem status_failConnecting (s : Session τ) : s.failConnecting.status = s.status ∨
    s.state = .connecting ∧ s.failConnecting.status = { s.status with state := .failed } := by
  unfold failConnecting
  split
  · next hs => exact .inr ⟨hs, rfl⟩
  · exact .inl rfl

theorem status_closedBy (s : Session τ) (r : Error) : (s.closedBy r).status = s.status ∨
    (s.closedBy r).status = { s.status with state := .closed } := by
  obtain h | h := s.closedBy_cases r <;> rw [h]
  · exact .inl rfl
  · exact .inr rfl

variable [Clock τ]

theorem Manage.status (h : Manage s p sig p' s') (hp : s.callers[n]? = some p) :
    s'.status = s.status ∨ Turns s (.move n sig) s'.status := by
  cases h with
  | connect hs => exact .inr (.connect hp hs)
  | enter hi hs => exact .inr (.enter hp hs hi)
  | close => exact .inr (.close hp)
  | failOpening | dropped | cancelled =>
    refine (s.status_closedBy _).imp id fun h ↦ ?_
    exact h ▸ .breakOff hp trivial
  | failGreeting _ hw =>
    obtain ⟨t, rfl⟩ := write_eq hw
    refine (status_closedBy { s with connection := t } _).imp id fun h ↦ ?_
    exact h ▸ .breakOff hp trivial
  | greet _ hw =>
    obtain ⟨t, rfl⟩ := write_eq hw
    exact .inl rfl
  | refused | refuseEntry =>
    refine s.status_failConnecting.imp id fun ⟨hs, h⟩ ↦ ?_
    exact h ▸ .fail hp trivial hs
  | giveUp =>
    refine (s.withReceiver s.receiver.cancelAuth).status_failConnecting.imp id fun ⟨hs, h⟩ ↦ ?_
    exact h ▸ .fail hp trivial hs
  | disconnect | join => split <;> exact .inl rfl
  | _ => exact .inl rfl

theorem Advance.status (h : Advance n s p sig p' s') : s'.status = s.status := by
  obtain ⟨t, c, k, ps, ls, rfl⟩ := h.eq_with
  rfl

theorem move_cases (hp : s.callers[n]? = some p) (sig : Signal) : s.step (.move n sig) = s ∨
    ∃ p' s', (Advance n s p sig p' s' ∨ Manage s p sig p' s') ∧
      s.step (.move n sig) = { s' with callers := s.callers.set n p' } ∧
      (s.step (.move n sig)).callers[n]? = some p' := by
  have hp' : (s.step (.move n sig)).callers[n]? = some (s.moved n p sig).1 := by
    rw [caller_move hp]
  by_cases ha : p.IsAsk
  · by_cases ht : p.Takes sig
    · exact .inr ⟨_, _, .inl (advance_moved n s ha ht), step_move hp sig, hp'⟩
    · exact .inl (step_move_of_not_takes hp ha ht)
  · exact .inr ⟨_, _, .inr (manage_moved n s sig ha), step_move hp sig, hp'⟩

/-- A step leaves the status as it is, or it is one of those that change it. -/
theorem status_step (s : Session τ) (e : Event τ) :
    (s.step e).status = s.status ∨ Turns s e (s.step e).status := by
  cases e with
  | call i => exact .inl rfl
  | move n sig =>
    cases hp : s.callers[n]? with
    | none => rw [step_move_of_none hp]; exact .inl rfl
    | some p =>
      obtain h | ⟨p', s', hadv | hman, h, -⟩ := move_cases hp sig <;> rw [h]
      · exact .inl rfl
      · exact .inl hadv.status
      · exact hman.status hp
  | frame f =>
    simp only [step, frameStep]
    split
    · split <;> exact .inl rfl
    · exact .inl rfl
  | lost f =>
    simp only [step, lostStep]
    split <;> exact .inl rfl
  | reader =>
    simp only [step, readerStep]
    split
    · exact .inl rfl
    · exact .inl rfl
    · next cause hr =>
      unfold reportLoss
      split
      · next hs => exact .inr (.lose hr hs)
      · exact .inl rfl
    all_goals exact .inl rfl
  | clock t =>
    simp only [step]
    split <;> exact .inl rfl

theorem state_step (s : Session τ) (e : Event τ) :
    (s.step e).state = s.state ∨ SessionState.Next s.state (s.step e).state :=
  (s.status_step e).imp (congrArg Status.state) Turns.next

theorem closed_step (h : s.state = .closed) (e : Event τ) : (s.step e).state = .closed := by
  obtain he | hn := s.state_step e
  · rw [he, h]
  · exact hn.eq_closed (.inr (.inr h))

theorem closed_run (h : s.state = .closed) (es : List (Event τ)) : (s.run es).state = .closed := by
  induction es generalizing s with
  | nil => exact h
  | cons e es ih => exact ih (closed_step h e)

theorem failed_run (h : s.state = .failed) (es : List (Event τ)) :
    (s.run es).state = .failed ∨ (s.run es).state = .closed := by
  induction es generalizing s with
  | nil => exact .inl h
  | cons e es ih =>
    obtain he | hn := s.state_step e
    · exact ih (he.trans h)
    · exact .inr (closed_run (hn.eq_closed (.inr (.inl h))) es)

theorem ne_disconnected_step (h : s.state ≠ .disconnected) (e : Event τ) :
    (s.step e).state ≠ .disconnected := by
  obtain he | hn := s.state_step e
  · rwa [he]
  · exact hn.ne_disconnected

/-- Caller `n` moves the session on from its first state. -/
def Attempts (n : Nat) (s : Session τ) (e : Event τ) : Prop :=
  e = .move n .go ∧ s.state = .disconnected ∧ ∃ x, s.callers[n]? = some (.connect x)

/-- The caller is on its way to an authenticated session, or away from it. -/
def Phase.IsAttempt (p : Phase τ) : Prop := p.IsConnecting ∨ ∃ r, p = .leave r

omit [Clock τ] in
theorem Phase.IsAttempt.not_isAsk (h : p.IsAttempt) : ¬p.IsAsk := by
  obtain h | ⟨r, rfl⟩ := h
  · cases p <;> first | exact id | exact h.elim
  · exact id

theorem Attempts.state (h : Attempts n s e) : (s.step e).state = .connecting := by
  obtain ⟨rfl, hs, x, hp⟩ := h
  rw [step_move hp]
  simp only [moved, connectStep, hs, if_true]

theorem Attempts.caller (h : Attempts n s e) :
    ∃ x, (s.step e).callers[n]? = some (.opening x) := by
  obtain ⟨rfl, hs, x, hp⟩ := h
  refine ⟨x, ?_⟩
  rw [caller_move hp]
  simp only [moved, connectStep, hs, if_true]

theorem Manage.isAttempt (h : Manage s p sig p' s') (hp : s.callers[n]? = some p)
    (hp' : p'.IsAttempt) : p.IsAttempt ∨ Attempts n s (.move n sig) := by
  cases h with
  | stay => exact .inl hp'
  | connect hs => exact .inr ⟨rfl, hs, _, hp⟩
  | opened | install | installLate | announce | greet | answered | strike | enterLate =>
    exact .inl (.inl trivial)
  | _ =>
    obtain hc | ⟨r, hr⟩ := hp'
    · exact hc.elim
    · cases hr

theorem Manage.isAttempt_or_ended (h : Manage s p sig p' s') (hp : p.IsAttempt) :
    p'.IsAttempt ∨ ∃ r, p' = .ended r := by
  cases h with
  | stay => exact .inl hp
  | opened | install | announce | greet | answered | strike => exact .inl (.inl trivial)
  | installLate | enterLate => exact .inl (.inr ⟨_, rfl⟩)
  | failOpening | ungreetable | failGreeting | balk | refused | dropped | cancelled | giveUp
  | refuseEntry | enter | leave => exact .inr ⟨_, rfl⟩
  | connect | connectAgain | close | failAll | disconnect | join =>
    obtain hc | ⟨r, hr⟩ := hp
    · exact hc.elim
    · cases hr

variable {settings : Settings τ} {files : FileSystem} {es : List (Event τ)}

theorem ne_disconnected_of_attempts (h : Occurs (Attempts n) s es) :
    (s.run es).state ≠ .disconnected := by
  induction es using List.reverseRecOn with
  | nil => exact absurd h not_occurs_nil
  | append_singleton es e ih =>
    rw [run_concat]
    obtain h | h := occurs_concat.1 h
    · exact ne_disconnected_step (ih h) e
    · simp [h.state]

theorem attempts_unique (hn : Occurs (Attempts n) s es) (hm : Occurs (Attempts m) s es) : n = m := by
  induction es using List.reverseRecOn with
  | nil => exact absurd hn not_occurs_nil
  | append_singleton es e ih =>
    rcases occurs_concat.1 hn with hn | hn <;> rcases occurs_concat.1 hm with hm | hm
    · exact ih hn hm
    · exact absurd hm.2.1 (ne_disconnected_of_attempts hn)
    · exact absurd hn.2.1 (ne_disconnected_of_attempts hm)
    · exact (Event.move.inj (hn.1.symm.trans hm.1)).1

theorem attempts_of_isAttempt (hp : ((start settings files).run es).callers[n]? = some p)
    (ha : p.IsAttempt) : Occurs (Attempts n) (start settings files) es := by
  induction es using List.reverseRecOn generalizing p with
  | nil => simp [start] at hp
  | append_singleton es e ih =>
    rw [run_concat] at hp
    have hend (r : Except Error (Option Classification)) : p ≠ .ended r := by
      rintro rfl
      obtain hc | ⟨_, hr⟩ := ha
      · exact hc.elim
      · cases hr
    obtain hp | ⟨q, sig, s', rfl, hq, hman⟩ | ⟨i, rfl⟩ := manage_step ha.not_isAsk hend hp
    · exact (ih hp ha).concat e
    · obtain h | h := hman.isAttempt hq ha
      · exact (ih hq h).concat _
      · exact occurs_concat.2 (.inr h)
    · obtain hc | ⟨r, hr⟩ := ha
      · cases i <;> exact hc.elim
      · cases i <;> cases hr

/-- Two callers that are on their way are the same. -/
theorem isAttempt_unique {q : Phase τ} (hp : ((start settings files).run es).callers[n]? = some p)
    (ha : p.IsAttempt) (hq : ((start settings files).run es).callers[m]? = some q)
    (hb : q.IsAttempt) : n = m :=
  attempts_unique (attempts_of_isAttempt hp ha) (attempts_of_isAttempt hq hb)

theorem caller_of_attempts (h : Occurs (Attempts n) s es) :
    ∃ p, (s.run es).callers[n]? = some p ∧ (p.IsAttempt ∨ ∃ r, p = .ended r) := by
  induction es using List.reverseRecOn with
  | nil => exact absurd h not_occurs_nil
  | append_singleton es e ih =>
    rw [run_concat]
    obtain h | h := occurs_concat.1 h
    · obtain ⟨p, hp, ha⟩ := ih h
      obtain ⟨hp', -⟩ | ⟨sig, rfl, hp'⟩ := callers_step hp e
      · exact ⟨p, hp', ha⟩
      · refine ⟨_, hp', ?_⟩
        obtain ha | ⟨r, rfl⟩ := ha
        · exact (manage_moved n _ sig ha.not_isAsk).isAttempt_or_ended ha
        · exact .inr ⟨r, by cases sig <;> rfl⟩
    · obtain ⟨x, hx⟩ := h.caller
      exact ⟨_, hx, .inl (.inl trivial)⟩

def Enters (s : Session τ) (e : Event τ) : Prop :=
  s.state ≠ .authenticated ∧ (s.step e).state = .authenticated

theorem sessionId_step (s : Session τ) (e : Event τ) :
    (s.step e).sessionId = s.sessionId ∧ ¬Enters s e ∨
      Enters s e ∧ s.state = .connecting ∧
        ∃ r id, grantedId? r = some id ∧ (s.step e).sessionId = some id := by
  have hkeep (hi : (s.step e).sessionId = s.sessionId)
      (hs : (s.step e).state = s.state ∨ (s.step e).state ≠ .authenticated) :
      (s.step e).sessionId = s.sessionId ∧ ¬Enters s e :=
    ⟨hi, fun ⟨hne, ha⟩ ↦ hs.elim (fun h ↦ hne (h.symm.trans ha)) fun h ↦ h ha⟩
  obtain h | h := s.status_step e
  · exact .inl (hkeep (congrArg Status.sessionId h) (.inl (congrArg Status.state h)))
  · generalize hx : (s.step e).status = x at h
    have hi := congrArg Status.sessionId hx
    have hs := congrArg Status.state hx
    cases h with
    | enter hp hc hg => exact .inr ⟨⟨by simp [hc], hs⟩, hc, _, _, hg, hi⟩
    | connect | fail | breakOff | close | lose =>
      exact .inl (hkeep hi (.inr (by rw [show (s.step _).state = _ from hs]; simp)))

omit [Clock τ] in
theorem grantedId?_ne_nil {r : AuthResponse} {id : Text} (h : grantedId? r = some id) : id ≠ [] := by
  unfold grantedId? at h
  split at h
  · obtain ⟨-, hi⟩ := Option.filter_eq_some_iff.1 h
    simpa using hi
  · cases h

/-- Before it enters, a session has no id and is not authenticated; after it, it has an id that is not
empty, and it is authenticated or closed. -/
theorem entered_run (settings : Settings τ) (files : FileSystem) (es : List (Event τ)) :
    (¬Occurs Enters (start settings files) es →
      ((start settings files).run es).sessionId = none ∧
        ((start settings files).run es).state ≠ .authenticated) ∧
      (Occurs Enters (start settings files) es →
        (((start settings files).run es).state = .authenticated ∨
          ((start settings files).run es).state = .closed) ∧
        ∃ id, id ≠ [] ∧ ((start settings files).run es).sessionId = some id) := by
  induction es using List.reverseRecOn with
  | nil => exact ⟨fun _ ↦ ⟨rfl, by simp [start]⟩, fun h ↦ absurd h not_occurs_nil⟩
  | append_singleton es e ih =>
    rw [run_concat]
    obtain ⟨hbefore, hafter⟩ := ih
    obtain ⟨hi, hne⟩ | ⟨he, -, r, id, hg, hi⟩ := sessionId_step ((start settings files).run es) e
    · refine ⟨fun h ↦ ?_, fun h ↦ ?_⟩
      · obtain ⟨hnone, hs⟩ := hbefore fun h' ↦ h (h'.concat e)
        exact ⟨hi.trans hnone, fun ha ↦ hne ⟨hs, ha⟩⟩
      · obtain ⟨hs, id, hid, hsome⟩ := hafter ((occurs_concat.1 h).resolve_right hne)
        refine ⟨?_, id, hid, hi.trans hsome⟩
        obtain h' | hn := state_step ((start settings files).run es) e
        · rwa [h']
        · exact .inr (hn.eq_closed (hs.imp_right .inr))
    · refine ⟨fun h ↦ absurd (occurs_concat.2 (.inr he)) h, fun _ ↦ ?_⟩
      exact ⟨.inl he.2, id, grantedId?_ne_nil hg, hi⟩

theorem entered_of_sessionId {id : Text}
    (h : ((start settings files).run es).sessionId = some id) :
    Occurs Enters (start settings files) es := by
  by_contra hne
  rw [((entered_run settings files es).1 hne).1] at h
  cases h

theorem sessionId_stays {id : Text} (h : ((start settings files).run es).sessionId = some id)
    (fs : List (Event τ)) : ((start settings files).run (es ++ fs)).sessionId = some id := by
  induction fs using List.reverseRecOn with
  | nil => rwa [List.append_nil]
  | append_singleton fs e ih =>
    rw [← List.append_assoc, run_concat]
    obtain ⟨hi, -⟩ | ⟨-, hc, -⟩ := sessionId_step ((start settings files).run (es ++ fs)) e
    · exact hi.trans ih
    · -- A session with an id does not connect any more.
      obtain ⟨hs, -⟩ := (entered_run settings files _).2 (entered_of_sessionId ih)
      rw [hc] at hs
      obtain hs | hs := hs <;> cases hs

theorem openings_run (settings : Settings τ) (files : FileSystem) (es : List (Event τ)) :
    (((start settings files).run es).state = .disconnected →
      ((start settings files).run es).openings = []) ∧
      ((start settings files).run es).openings.length ≤ 1 := by
  induction es using List.reverseRecOn with
  | nil => exact ⟨fun _ ↦ rfl, Nat.zero_le _⟩
  | append_singleton es e ih =>
    rw [run_concat]
    obtain ⟨hfresh, hle⟩ := ih
    obtain h | h := status_step ((start settings files).run es) e
    · have hs : (((start settings files).run es).step e).state = _ := congrArg Status.state h
      have ho : (((start settings files).run es).step e).openings = _ := congrArg Status.openings h
      rw [hs, ho]
      exact ⟨hfresh, hle⟩
    · generalize hx : (((start settings files).run es).step e).status = x at h
      have hs : (((start settings files).run es).step e).state = x.state := congrArg Status.state hx
      have ho : (((start settings files).run es).step e).openings = x.openings :=
        congrArg Status.openings hx
      rw [hs, ho]
      cases h with
      | connect _ hd => exact ⟨fun hc ↦ (by cases hc), by simp [hfresh hd]⟩
      | enter | fail | breakOff | close | lose => exact ⟨fun hc ↦ (by cases hc), hle⟩

end Session

end VerdictClient
