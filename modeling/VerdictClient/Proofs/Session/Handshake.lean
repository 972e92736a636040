import VerdictClient.Proofs.Session.Step

namespace VerdictClient.Session

variable {τ : Type}

def Phase.IsConnecting : Phase τ → Prop
  | .opening _ | .install _ | .announce _ | .greet _ _ | .awaitAuth _ _ | .giveUp _ | .enter _ => True
  | _ => False

/-- Where a connecting caller stands with the receiver. -/
def Phase.Stands (r : Receiver τ) : Phase τ → Prop
  | .greet _ w | .awaitAuth w _ | .giveUp w => w = 0 ∧ r.waiters.length = 1
  | .enter _ => r.expecting = none
  | _ => r.waiters.length = 0

/-- How far the handshake has come. -/
structure Handshake (s : Session τ) : Prop where
  alone : ∀ {n m : Nat} {p q : Phase τ}, s.callers[n]? = some p → s.callers[m]? = some q →
    p.IsConnecting → q.IsConnecting → n = m
  stands : ∀ {n : Nat} {p : Phase τ}, s.callers[n]? = some p → p.IsConnecting → p.Stands s.receiver
  expected : ∀ w, s.receiver.expecting = some w → w = 0 ∧ s.receiver.waiters = [.pending]
  fresh : s.state = .disconnected → s.receiver.waiters.length = 0 ∧
    ∀ (n : Nat) (p : Phase τ), s.callers[n]? = some p → ¬p.IsConnecting
  admitted : s.state = .authenticated → s.receiver.expecting = none ∧
    ∀ (n : Nat) (p : Phase τ), s.callers[n]? = some p → ¬p.IsConnecting

def Calmer (r r' : Receiver τ) : Prop :=
  r'.waiters = r.waiters ∧ r'.expecting = r.expecting ∨
    r'.waiters.length = r.waiters.length ∧ r'.expecting = none

theorem Calmer.refl (r : Receiver τ) : Calmer r r := .inl ⟨rfl, rfl⟩

theorem calmer_settleWaiter (r : Receiver τ) (o : Future AuthResponse) :
    Calmer r (r.settleWaiter o) := by
  unfold Receiver.settleWaiter
  split
  · exact .refl r
  · exact .inr ⟨List.length_modify .., rfl⟩

theorem Calmer.length_eq {r r' : Receiver τ} (h : Calmer r r') :
    r'.waiters.length = r.waiters.length := by
  obtain ⟨hw, -⟩ | ⟨hl, -⟩ := h
  · rw [hw]
  · exact hl

theorem Calmer.expecting {r r' : Receiver τ} (h : Calmer r r') (he : r.expecting = none) :
    r'.expecting = none := by
  obtain ⟨-, h⟩ | ⟨-, h⟩ := h
  · rw [h, he]
  · exact h

theorem Phase.Stands.calmer {r r' : Receiver τ} (h : Calmer r r') {p : Phase τ} (hp : p.Stands r) :
    p.Stands r' := by
  cases p with
  | enter => exact h.expecting hp
  | greet | awaitAuth | giveUp => exact ⟨hp.1, h.length_eq.trans hp.2⟩
  | _ => exact h.length_eq.trans hp

variable {s s' : Session τ}

theorem Handshake.calmer (h : Handshake s)
    (hc : ∀ (n : Nat) (p : Phase τ), s'.callers[n]? = some p → p.IsConnecting → s.callers[n]? = some p)
    (hr : Calmer s.receiver s'.receiver)
    (hs : s'.state = s.state ∨ s'.state = .failed ∨ s'.state = .closed) : Handshake s' where
  alone hp hq hpc hqc := h.alone (hc _ _ hp hpc) (hc _ _ hq hqc) hpc hqc
  stands hp hpc := (h.stands (hc _ _ hp hpc) hpc).calmer hr
  expected w hw := by
    obtain ⟨hrw, hre⟩ | ⟨-, hre⟩ := hr
    · exact hrw ▸ h.expected w (hre ▸ hw)
    · cases hre.symm.trans hw
  fresh hd := by
    obtain hs | hs | hs := hs
    · obtain ⟨hw, hf⟩ := h.fresh (hs ▸ hd)
      exact ⟨hr.length_eq.trans hw, fun n p hp hpc ↦ hf n p (hc n p hp hpc) hpc⟩
    · cases hs.symm.trans hd
    · cases hs.symm.trans hd
  admitted ha := by
    obtain hs | hs | hs := hs
    · obtain ⟨he, hf⟩ := h.admitted (hs ▸ ha)
      exact ⟨hr.expecting he, fun n p hp hpc ↦ hf n p (hc n p hp hpc) hpc⟩
    · cases hs.symm.trans ha
    · cases hs.symm.trans ha

/-- Of the callers after one has gone on, this is that one, or it stands where it stood. -/
theorem getElem?_set_cases {ps : List (Phase τ)} {n m : Nat} {p p' : Phase τ}
    (h : (ps.set n p')[m]? = some p) : m = n ∧ p = p' ∨ m ≠ n ∧ ps[m]? = some p := by
  rw [List.getElem?_set] at h
  split at h
  · next hnm =>
    split at h
    · exact .inl ⟨hnm.symm, (Option.some_inj.1 h).symm⟩
    · cases h
  · next hnm => exact .inr ⟨Ne.symm hnm, h⟩

theorem getElem?_set_of_isConnecting {n m : Nat} {p p' : Phase τ} (hp' : ¬p'.IsConnecting)
    (hm : (s.callers.set n p')[m]? = some p) (hpc : p.IsConnecting) : s.callers[m]? = some p := by
  obtain ⟨-, rfl⟩ | ⟨-, hm⟩ := getElem?_set_cases hm
  · exact absurd hpc hp'
  · exact hm

theorem Handshake.goes_on (h : Handshake s) {n : Nat} {p p' : Phase τ}
    (hp : s.callers[n]? = some p) (hpc : p.IsConnecting) (hc : s'.callers = s.callers.set n p')
    (hs : s'.state = s.state) (hst : p'.Stands s'.receiver)
    (he : ∀ w, s'.receiver.expecting = some w → w = 0 ∧ s'.receiver.waiters = [.pending]) :
    Handshake s' := by
  have honly {m : Nat} {q : Phase τ} (hq : s'.callers[m]? = some q) (hqc : q.IsConnecting) :
      m = n ∧ q = p' := by
    rw [hc] at hq
    obtain hsame | ⟨hnm, hq⟩ := getElem?_set_cases hq
    · exact hsame
    · exact absurd (h.alone hp hq hpc hqc).symm hnm
  refine ⟨fun hp hq hpc hqc ↦ ?_, fun hq hqc ↦ ?_, he, fun hd ↦ ?_, fun ha ↦ ?_⟩
  · rw [(honly hp hpc).1, (honly hq hqc).1]
  · exact (honly hq hqc).2 ▸ hst
  · exact absurd hpc ((h.fresh (hs ▸ hd)).2 n p hp)
  · exact absurd hpc ((h.admitted (hs ▸ ha)).2 n p hp)

/-- Nobody connects before the caller that moves the session on from its first state. -/
theorem Handshake.begins (h : Handshake s) {n : Nat} {p' : Phase τ} (hd : s.state = .disconnected)
    (hc : s'.callers = s.callers.set n p') (hr : s'.receiver = s.receiver)
    (hs : s'.state = .connecting) (hst : p'.Stands s.receiver) : Handshake s' := by
  have honly {m : Nat} {q : Phase τ} (hq : s'.callers[m]? = some q) (hqc : q.IsConnecting) :
      m = n ∧ q = p' := by
    rw [hc] at hq
    obtain hsame | ⟨-, hq⟩ := getElem?_set_cases hq
    · exact hsame
    · exact absurd hqc ((h.fresh hd).2 m q hq)
  refine ⟨fun hp hq hpc hqc ↦ ?_, fun hq hqc ↦ ?_, hr ▸ h.expected, fun hd' ↦ ?_, fun ha ↦ ?_⟩
  · rw [(honly hp hpc).1, (honly hq hqc).1]
  · exact (honly hq hqc).2 ▸ hr ▸ hst
  · cases hs.symm.trans hd'
  · cases hs.symm.trans ha

/-- Nobody connects after the caller that makes the session an authenticated one. -/
theorem Handshake.enters (h : Handshake s) {n : Nat} {p p' : Phase τ}
    (hp : s.callers[n]? = some p) (hpc : p.IsConnecting) (hp' : ¬p'.IsConnecting)
    (hc : s'.callers = s.callers.set n p') (hr : s'.receiver = s.receiver)
    (hs : s'.state = .authenticated) (he : s.receiver.expecting = none) : Handshake s' := by
  have hout (m : Nat) (q : Phase τ) (hq : s'.callers[m]? = some q) : ¬q.IsConnecting := by
    intro hqc
    rw [hc] at hq
    obtain ⟨-, rfl⟩ | ⟨hnm, hq⟩ := getElem?_set_cases hq
    · exact hp' hqc
    · exact hnm (h.alone hp hq hpc hqc).symm
  refine ⟨fun hp _ hpc ↦ absurd hpc (hout _ _ hp), fun hp hpc ↦ absurd hpc (hout _ _ hp),
    hr ▸ h.expected, fun hd ↦ ?_, fun _ ↦ ⟨hr ▸ he, hout⟩⟩
  cases hs.symm.trans hd

theorem failConnecting_cases (s : Session τ) :
    s.failConnecting = s ∨ s.failConnecting = { s with state := .failed } := by
  unfold failConnecting
  split
  · exact .inr rfl
  · exact .inl rfl

theorem closedBy_cases (s : Session τ) (e : Error) :
    s.closedBy e = s ∨ s.closedBy e = { s with state := .closed } := by
  cases e <;> first | exact .inl rfl | exact .inr rfl

variable [Clock τ]

theorem Handshake.manage {p p' : Phase τ} {sig : Signal} {n : Nat} {s₁ s' : Session τ}
    (h : Handshake s) (hp : s.callers[n]? = some p) (hm : Manage s p sig p' s₁)
    (hc : s'.callers = s.callers.set n p') (hr : s'.receiver = s₁.receiver)
    (hs : s'.state = s₁.state) : Handshake s' := by
  have hcalm (hp' : ¬p'.IsConnecting) (hr₁ : Calmer s.receiver s₁.receiver)
      (hs₁ : s₁.state = s.state ∨ s₁.state = .failed ∨ s₁.state = .closed) : Handshake s' := by
    refine h.calmer (fun m q hq hqc ↦ ?_) (hr ▸ hr₁) (hs ▸ hs₁)
    exact getElem?_set_of_isConnecting hp' (hc ▸ hq) hqc
  have hon (hpc : p.IsConnecting) (hs₁ : s₁.state = s.state) (hst : p'.Stands s₁.receiver)
      (he : ∀ w, s₁.receiver.expecting = some w → w = 0 ∧ s₁.receiver.waiters = [.pending]) :
      Handshake s' :=
    h.goes_on hp hpc hc (hs.trans hs₁) (hr ▸ hst) (hr ▸ he)
  cases hm with
  | stay =>
    refine h.calmer (fun m q hq hqc ↦ ?_) (hr ▸ .refl _) (.inl hs)
    rw [hc] at hq
    obtain ⟨rfl, rfl⟩ | ⟨-, hq⟩ := getElem?_set_cases hq
    · exact hp
    · exact hq
  | connect hd => exact h.begins hd hc hr hs (h.fresh hd).1
  | opened | install =>
    have hst := h.stands hp trivial
    exact hon trivial rfl hst h.expected
  | announce =>
    have hw : s.receiver.waiters = [] := List.length_eq_zero_iff.1 (h.stands hp trivial)
    refine hon trivial rfl ?_ ?_
    · simp [Phase.Stands, Receiver.expectAuth, withReceiver, hw]
    · simp [Receiver.expectAuth, withReceiver, hw, eq_comm]
  | greet _ hw =>
    obtain ⟨t, rfl⟩ := write_eq hw
    have hst := h.stands hp trivial
    exact hon trivial rfl hst h.expected
  | answered ha =>
    refine hon trivial rfl ?_ h.expected
    -- The waiter is settled, and a waiter that is still expected is not.
    obtain ⟨rfl, -⟩ := h.stands hp trivial
    cases he : s.receiver.expecting with
    | none => exact he
    | some w => simp [(h.expected w he).2] at ha
  | strike =>
    have hst := h.stands hp trivial
    exact hon trivial rfl hst h.expected
  | enter => exact h.enters hp trivial id hc hr hs (h.stands hp trivial)
  | failOpening | dropped | cancelled =>
    obtain he | he := s.closedBy_cases _ <;> rw [he] at hcalm
    · exact hcalm id (.refl _) (.inl rfl)
    · exact hcalm id (.refl _) (.inr (.inr rfl))
  | failGreeting _ hw =>
    obtain ⟨t, rfl⟩ := write_eq hw
    obtain he | he := closedBy_cases { s with connection := t } _ <;> rw [he] at hcalm
    · exact hcalm id (.refl _) (.inl rfl)
    · exact hcalm id (.refl _) (.inr (.inr rfl))
  | refused | refuseEntry =>
    obtain he | he := s.failConnecting_cases <;> rw [he] at hcalm
    · exact hcalm id (.refl _) (.inl rfl)
    · exact hcalm id (.refl _) (.inr (.inl rfl))
  | giveUp =>
    have hr₁ : Calmer s.receiver (s.withReceiver s.receiver.cancelAuth).receiver :=
      calmer_settleWaiter s.receiver .cancelled
    obtain he | he := (s.withReceiver s.receiver.cancelAuth).failConnecting_cases <;> rw [he] at hcalm
    · exact hcalm id hr₁ (.inl rfl)
    · exact hcalm id hr₁ (.inr (.inl rfl))
  | close => exact hcalm id (.refl _) (.inr (.inr rfl))
  | disconnect | join => split at hcalm <;> exact hcalm id (.refl _) (.inl rfl)
  | connectAgain | installLate | ungreetable | balk | enterLate | leave | failAll =>
    exact hcalm id (.refl _) (.inl rfl)

theorem Handshake.advance {p p' : Phase τ} {sig : Signal} {n : Nat} {s₁ s' : Session τ}
    (h : Handshake s) (hadv : Advance n s p sig p' s₁) (hc : s'.callers = s.callers.set n p')
    (hr : s'.receiver = s₁.receiver) (hs : s'.state = s₁.state) : Handshake s' := by
  have hp' : ¬p'.IsConnecting := by
    obtain ha | ⟨r, rfl⟩ := hadv.isAsk_or_ended
    · cases p' <;> first | exact id | exact ha.elim
    · exact id
  obtain ⟨t, c, k, ps, ls, rfl⟩ := hadv.eq_with
  exact h.calmer (fun m q hq hqc ↦ getElem?_set_of_isConnecting hp' (hc ▸ hq) hqc)
    (hr ▸ .inl ⟨rfl, rfl⟩) (.inl hs)

theorem Handshake.move (h : Handshake s) (n : Nat) (sig : Signal) :
    Handshake (s.step (.move n sig)) := by
  cases hp : s.callers[n]? with
  | none => rwa [step_move_of_none hp]
  | some p =>
    by_cases ha : p.IsAsk
    · by_cases ht : p.Takes sig
      · rw [step_move hp]
        exact h.advance (advance_moved n s ha ht) rfl rfl rfl
      · rwa [step_move_of_not_takes hp ha ht]
    · rw [step_move hp]
      exact h.manage hp (manage_moved n s sig ha) rfl rfl rfl

omit [Clock τ] in
theorem frameStep_handshake (s : Session τ) (f : Frame) :
    Calmer s.receiver (s.frameStep f).receiver ∧ (s.frameStep f).state = s.state := by
  unfold frameStep
  cases s.reader with
  | reading =>
    simp only [Receiver.dispatch]
    cases he : s.receiver.expecting with
    | some w =>
      simp only [Receiver.takeAnswer]
      cases Receiver.handshakeOutcome f with
      | ok o => exact ⟨calmer_settleWaiter s.receiver o, rfl⟩
      | error c => exact ⟨.inr ⟨rfl, rfl⟩, rfl⟩
    | none =>
      simp only [Receiver.route]
      split <;> exact ⟨.refl _, rfl⟩
  | idle | failWaiter | failRequests | report | ended => exact ⟨.refl _, rfl⟩

omit [Clock τ] in
theorem readerStep_handshake (s : Session τ) : Calmer s.receiver s.readerStep.receiver ∧
    (s.readerStep.state = s.state ∨ s.readerStep.state = .closed) := by
  unfold readerStep
  split
  · next e he =>
    refine ⟨?_, .inl rfl⟩
    cases e <;> exact calmer_settleWaiter ..
  · exact ⟨.refl _, .inl rfl⟩
  · unfold reportLoss
    split
    · exact ⟨.refl _, .inr rfl⟩
    · exact ⟨.refl _, .inl rfl⟩
  all_goals exact ⟨.refl _, .inl rfl⟩

theorem Handshake.step (h : Handshake s) (e : Event τ) : Handshake (s.step e) := by
  have hcallers (hc : ∀ i, e ≠ .call i) (hm : ∀ n sig, e ≠ .move n sig) (n : Nat) (p : Phase τ)
      (hp : (s.step e).callers[n]? = some p) (_ : p.IsConnecting) : s.callers[n]? = some p := by
    rwa [callers_step_of_not_move hc hm] at hp
  cases e with
  | call i =>
    refine h.calmer (fun n p hp hpc ↦ ?_) (.refl _) (.inl rfl)
    obtain ⟨hp, -⟩ | ⟨p, sig, he, -⟩ | ⟨i, -, -, rfl⟩ := caller_step hp
    · exact hp
    · cases he
    · cases i <;> exact hpc.elim
  | move n sig => exact h.move n sig
  | frame f =>
    obtain ⟨hr, hs⟩ := s.frameStep_handshake f
    exact h.calmer (hcallers (by simp) (by simp)) hr (.inl hs)
  | lost f =>
    have hl : (s.step (.lost f)).receiver = s.receiver ∧ (s.step (.lost f)).state = s.state := by
      simp only [Session.step, lostStep]
      split <;> exact ⟨rfl, rfl⟩
    exact h.calmer (hcallers (by simp) (by simp)) (hl.1 ▸ .refl _) (.inl hl.2)
  | reader =>
    obtain ⟨hr, hs⟩ := s.readerStep_handshake
    exact h.calmer (hcallers (by simp) (by simp)) hr (hs.imp id .inr)
  | clock m =>
    have hl : (s.step (.clock m)).receiver = s.receiver ∧ (s.step (.clock m)).state = s.state := by
      simp only [Session.step]
      split <;> exact ⟨rfl, rfl⟩
    exact h.calmer (hcallers (by simp) (by simp)) (hl.1 ▸ .refl _) (.inl hl.2)

theorem handshake_run (settings : Settings τ) (files : FileSystem) (es : List (Event τ)) :
    Handshake ((start settings files).run es) := by
  induction es using List.reverseRecOn with
  | nil =>
    refine ⟨fun hp ↦ by simp [start] at hp, fun hp ↦ by simp [start] at hp,
      fun w hw ↦ by simp [start, Receiver.empty] at hw, fun _ ↦ ⟨rfl, fun n p hp ↦ ?_⟩, fun ha ↦ ?_⟩
    · simp [start] at hp
    · cases ha
  | append_singleton es e ih =>
    rw [run_concat]
    exact ih.step e

end VerdictClient.Session
