import VerdictClient.Proofs.Session.Loss

namespace VerdictClient.Session

variable {τ : Type} [Clock τ]

/-- The time for the handshake is over, and no answer has come. -/
def TimesOut (s : Session τ) (e : Event τ) : Prop :=
  ∃ n w k, e = .move n .struck ∧ s.callers[n]? = some (.awaitAuth w (some k)) ∧
    Clock.lt s.now k = false ∧ (s.receiver.waiters.getD w .pending).isPending = true

def Reads (s : Session τ) (e : Event τ) : Prop :=
  s.reader = .reading ∧ ∃ f, e = .frame f

/-- Frame `f` is the first that the reader dispatches, and it does so in time. -/
def IsFirst (f : Frame) (s : Session τ) (es : List (Event τ)) : Prop :=
  ∃ es₁ es₂, es = es₁ ++ .frame f :: es₂ ∧ (s.run es₁).reader = .reading ∧
    ¬Occurs Reads s es₁ ∧ ¬Occurs TimesOut s es₁

/-- The connection takes the frame with which caller `n` presents its token. -/
def Presents (n : Nat) (s : Session τ) (e : Event τ) : Prop :=
  ∃ x w o t, e = .move n (.written o) ∧ s.callers[n]? = some (.greet x w) ∧
    greeting x = .ok t ∧ (s.write t o).1 = .ok ()

/-- Caller `n` has no answer yet and finds that nobody can wait for it as long as the session would. -/
def Balks (n : Nat) (s : Session τ) (e : Event τ) : Prop :=
  ∃ w k x, e = .move n .go ∧ s.callers[n]? = some (.awaitAuth w k) ∧
    s.receiver.waiters.getD w .pending = .pending ∧ s.patience = .error x

variable {s s' : Session τ} {n m k : Nat} {p p' : Phase τ} {sig : Signal} {e : Event τ}
variable {settings : Settings τ} {files : FileSystem} {es : List (Event τ)}
variable {f : Frame} {o : Future AuthResponse}

/-- A frame is the first if nothing before it is a frame or tells that a wait is over. -/
theorem isFirst_of_forall (es₁ es₂ : List (Event τ)) (hr : (s.run es₁).reader = .reading)
    (h : ∀ e ∈ es₁, (∀ g, e ≠ .frame g) ∧ ∀ m, e ≠ .move m .struck) :
    IsFirst f s (es₁ ++ .frame f :: es₂) := by
  refine ⟨es₁, es₂, rfl, hr, ?_, ?_⟩
  · rintro ⟨fs, e, gs, rfl, -, g, rfl⟩
    exact (h _ (by simp)).1 g rfl
  · rintro ⟨fs, e, gs, rfl, m, w, k, rfl, -⟩
    exact (h _ (by simp)).2 m rfl

theorem timesOut_of_giveUp {w : Nat}
    (h : ((start settings files).run es).callers[n]? = some (.giveUp w)) :
    Occurs TimesOut (start settings files) es := by
  induction es using List.reverseRecOn with
  | nil => simp [start] at h
  | append_singleton es e ih =>
    rw [run_concat] at h
    obtain hp | ⟨p, sig, s', rfl, hp, hman⟩ | ⟨i, hi⟩ := manage_step id (by simp) h
    · exact (ih hp).concat e
    · cases hman with
      | stay => exact (ih hp).concat _
      | strike hlt hw => exact occurs_concat.2 (.inr ⟨n, w, _, rfl, hp, hlt, hw⟩)
    · cases i <;> cases hi

theorem expecting_cases (s : Session τ) (e : Event τ) :
    (s.step e).receiver.expecting = s.receiver.expecting ∨
      (∃ (n : Nat) (x : Value), s.callers[n]? = some (.announce x)) ∨
      (∃ n w : Nat, s.callers[n]? = some (.giveUp w)) ∨
      Reads s e ∨ ∃ x, s.reader = .failWaiter x := by
  cases e with
  | call i => exact .inl rfl
  | move n sig =>
    cases hp : s.callers[n]? with
    | none => exact .inl (by rw [step_move_of_none hp])
    | some p =>
      obtain h | ⟨p', s', hadv | hman, h, -⟩ := move_cases hp sig <;> rw [h]
      · exact .inl rfl
      · obtain ⟨t, c, k, ps, ls, rfl⟩ := hadv.eq_with
        exact .inl rfl
      · obtain hr | ⟨r, hr, hh⟩ := hman.handles
        · exact .inl (congrArg Receiver.expecting hr)
        · cases hh with
          | announce hx => exact .inr (.inl ⟨n, _, hx ▸ hp⟩)
          | giveUp hx => exact .inr (.inr (.inl ⟨n, _, hx ▸ hp⟩))
          | failAll =>
            have he : s'.receiver.expecting = s.receiver.expecting := by rw [hr]; rfl
            exact .inl he
  | frame f =>
    by_cases hr : s.reader = .reading
    · exact .inr (.inr (.inr (.inl ⟨hr, f, rfl⟩)))
    · exact .inl (congrArg (·.receiver.expecting) (frameStep_of_ne f hr))
  | lost f =>
    simp only [step, lostStep]
    split <;> exact .inl rfl
  | reader =>
    simp only [step, readerStep, reportLoss]
    split
    · next x hr => exact .inr (.inr (.inr (.inr ⟨x, hr⟩)))
    · exact .inl rfl
    · split <;> exact .inl rfl
    all_goals exact .inl rfl
  | clock t =>
    simp only [step]
    split <;> exact .inl rfl

theorem expecting_of_begin {x : Value} (hi : s.reader = .idle)
    (hp : s.callers[n]? = some (.announce x)) (hr : (s.step (.move n sig)).reader = .reading) :
    (s.step (.move n sig)).receiver.expecting = some s.receiver.waiters.length := by
  rw [step_move hp] at hr ⊢
  cases sig with
  | go => rfl
  | opened | written | answered | struck => cases hi.symm.trans hr

/-- As long as no frame has come and the time is not over, the next frame is the one that is waited
for. -/
theorem expecting_run (hr : ((start settings files).run es).reader = .reading)
    (hf : ¬Occurs Reads (start settings files) es) (ht : ¬Occurs TimesOut (start settings files) es) :
    ((start settings files).run es).receiver.expecting = some 0 ∧
      ((start settings files).run es).receiver.waiters = [.pending] := by
  suffices h : ∃ w, ((start settings files).run es).receiver.expecting = some w by
    obtain ⟨w, hw⟩ := h
    obtain ⟨rfl, hwaiters⟩ := (handshake_run settings files es).expected w hw
    exact ⟨hw, hwaiters⟩
  induction es using List.reverseRecOn with
  | nil => cases hr
  | append_singleton es e ih =>
    rw [run_concat] at hr ⊢
    have hf' : ¬Occurs Reads (start settings files) es := fun h ↦ hf (h.concat e)
    have ht' : ¬Occurs TimesOut (start settings files) es := fun h ↦ ht (h.concat e)
    cases reader_turn ((start settings files).run es) e with
    | stay _ hs =>
      have hreading := hs.symm.trans hr
      obtain ⟨w, hw⟩ := ih hreading hf' ht'
      obtain he | ⟨m, x, hp⟩ | ⟨m, v, hp⟩ | hreads | ⟨x, hx⟩ :=
        expecting_cases ((start settings files).run es) e
      · exact ⟨w, he.trans hw⟩
      · cases (idle_of_announce hp).symm.trans hreading
      · exact absurd (timesOut_of_giveUp hp) ht'
      · exact absurd (occurs_concat.2 (.inr hreads)) hf
      · cases hx.symm.trans hreading
    | begin _ he hp =>
      subst he
      exact ⟨_, expecting_of_begin (idle_of_announce hp) hp hr⟩
    | stop _ _ hs | failWaiter _ _ hs | failRequests _ _ hs | report _ _ hs => cases hs.symm.trans hr

theorem waiters_step (ho : o ≠ .pending)
    (h : ((start settings files).run es).receiver.waiters = [o]) (e : Event τ) :
    (((start settings files).run es).step e).receiver.waiters = [o] := by
  have hshake := handshake_run settings files es
  obtain hc | ⟨m, x, hp, -⟩ | ⟨-, hr⟩ := receiver_step ((start settings files).run es) e
  · cases hc with
    | keep hw => exact hw.trans h
    | settle hw =>
      have hpending := h.symm.trans (hshake.expected _ hw).2
      exact absurd (List.cons.inj hpending).1 ho
  · have hnil : ((start settings files).run es).receiver.waiters.length = 0 :=
      hshake.stands hp trivial
    rw [h] at hnil
    cases hnil
  · rw [hr]
    exact h

theorem waiters_run (ho : o ≠ .pending)
    (h : ((start settings files).run es).receiver.waiters = [o]) (fs : List (Event τ)) :
    ((start settings files).run (es ++ fs)).receiver.waiters = [o] := by
  induction fs using List.reverseRecOn with
  | nil => rwa [List.append_nil]
  | append_singleton fs e ih =>
    rw [← List.append_assoc, run_concat]
    exact waiters_step ho ih e

theorem waiters_of_frame (hr : ((start settings files).run es).reader = .reading)
    (hf : ¬Occurs Reads (start settings files) es) (ht : ¬Occurs TimesOut (start settings files) es)
    (hd : Receiver.handshakeOutcome f = .ok o) :
    ((start settings files).run (es ++ [.frame f])).receiver.waiters = [o] := by
  obtain ⟨he, hw⟩ := expecting_run hr hf ht
  rw [run_concat]
  simp only [step, frameStep, hr, Receiver.dispatch, he, Receiver.takeAnswer, hd, withReceiver,
    Receiver.settleWaiter, hw]
  rfl

theorem waiters_of_isFirst (h : IsFirst f (start settings files) es)
    (hd : Receiver.handshakeOutcome f = .ok o) :
    ((start settings files).run es).receiver.waiters = [o] := by
  obtain ⟨es₁, es₂, rfl, hr, hf, ht⟩ := h
  have ho := (Receiver.isTold_of_handshakeOutcome hd).2
  rw [List.append_cons]
  exact waiters_run ho (waiters_of_frame hr hf ht hd) es₂

omit [Clock τ] in
theorem isPending_of_ne_pending (h : o ≠ .pending) : o.isPending = false := by
  cases o with
  | pending => exact absurd rfl h
  | done | failed | cancelled => rfl

theorem not_timesOut_of_waiters (ho : o ≠ .pending)
    (h : ((start settings files).run es).receiver.waiters = [o]) (e : Event τ) :
    ¬TimesOut ((start settings files).run es) e := by
  rintro ⟨m, w, k, -, hp, -, hpending⟩
  obtain ⟨rfl, -⟩ := (handshake_run settings files es).stands hp trivial
  rw [h, List.getD_cons_zero, isPending_of_ne_pending ho] at hpending
  cases hpending

theorem not_balks_of_waiters (ho : o ≠ .pending)
    (h : ((start settings files).run es).receiver.waiters = [o]) (e : Event τ) :
    ¬Balks n ((start settings files).run es) e := by
  rintro ⟨w, k, x, -, hp, hpending, -⟩
  obtain ⟨rfl, -⟩ := (handshake_run settings files es).stands hp trivial
  rw [h, List.getD_cons_zero] at hpending
  exact ho hpending

theorem not_timesOut_of_isFirst (h : IsFirst f (start settings files) es)
    (hd : Receiver.handshakeOutcome f = .ok o) : ¬Occurs TimesOut (start settings files) es := by
  obtain ⟨es₁, es₂, rfl, hr, hf, ht⟩ := h
  have ho := (Receiver.isTold_of_handshakeOutcome hd).2
  have hw := waiters_of_frame hr hf ht hd
  rw [List.append_cons]
  intro hlate
  obtain hbefore | ⟨fs₁, e, fs₂, rfl, hout⟩ := occurs_append.1 hlate
  · obtain hout | ⟨_, _, _, he, -⟩ := occurs_concat.1 hbefore
    · exact ht hout
    · cases he
  · rw [← run_append] at hout
    exact not_timesOut_of_waiters ho (waiters_run ho hw fs₁) e hout

omit [Clock τ] in
theorem handshakeOutcome_of_decode (h : ∀ c, AuthResponse.decode f ≠ .error (.tooDeep c)) :
    ∃ o, Receiver.handshakeOutcome f = .ok o := by
  unfold Receiver.handshakeOutcome
  split
  · exact ⟨_, rfl⟩
  · exact ⟨_, rfl⟩
  · next c hd => exact absurd hd (h c)

theorem IsFirst.append (h : IsFirst f s es) (fs : List (Event τ)) : IsFirst f s (es ++ fs) := by
  obtain ⟨es₁, es₂, rfl, hr, hf, ht⟩ := h
  exact ⟨es₁, es₂ ++ fs, by simp, hr, hf, ht⟩

omit [Clock τ] in
theorem open_of_write {t : Text} {x : Option Failure} (h : (s.write t x).1 = .ok ()) :
    ∃ u, s.write t x = (.ok (), { s with connection := some u }) ∧ u.closed = false := by
  unfold write at h ⊢
  cases hc : s.connection with
  | none => simp [hc] at h
  | some u =>
    simp only [hc, Transport.send] at h ⊢
    by_cases hu : u.closed = true
    · simp [hu] at h
    · cases x with
      | none =>
        simp only [hu, Bool.false_eq_true, if_false, Transport.write]
        exact ⟨_, rfl, rfl⟩
      | some f => simp [hu, Transport.write] at h

theorem Presents.moved (h : Presents n s e) : ∃ x w o k u, e = .move n (.written o) ∧
    s.callers[n]? = some (.greet x w) ∧ u.closed = false ∧
      s.moved n (.greet x w) (.written o) = (.awaitAuth w k, { s with connection := some u }) := by
  obtain ⟨x, w, o, t, rfl, hp, hg, hw⟩ := h
  obtain ⟨u, hsend, hu⟩ := open_of_write hw
  refine ⟨x, w, o, authWake { s with connection := some u }, u, rfl, hp, hu, ?_⟩
  simp only [Session.moved, greetStep, hg, hsend]

/-- What the answer `o` to the handshake makes of the caller that waits for it, which ends with `r`, and
of the session, whose loss may have been reported since. -/
inductive Yields (s : Session τ) (lost : Prop) :
    Future AuthResponse → Except Error (Option Classification) → Prop
  | granted {a id} (h : grantedId? a = some id) (hi : s.sessionId = some id)
      (hs : s.state = .authenticated ∨ lost) : Yields s lost (.done a) (.ok none)
  | refused {a} (h : grantedId? a = none) (hs : s.state = .failed) :
      Yields s lost (.done a) (.error (.authentication (refusal a)))
  | undecodable {c} (hs : s.state = .failed) :
      Yields s lost (.failed (.authentication c)) (.error (.authentication c))
  | dropped {x} (hx : ∀ c, x ≠ .authentication c) : Yields s lost (.failed x) (.error x)
  | cancelled : Yields s lost .cancelled (.error (.closed .unnamed))

/-- Where a caller that has presented its token stands. -/
def Phase.Follows (s : Session τ) (closed late balked lost : Prop) : Phase τ → Prop
  | .awaitAuth w _ => w = 0
  | .giveUp _ => late
  | .enter a => s.receiver.waiters = [.done a]
  | .leave _ => closed
  | .ended r =>
    closed ∨ late ∨ balked ∨ ∃ o, s.receiver.waiters = [o] ∧ o ≠ .pending ∧ Yields s lost o r
  | _ => False

variable {closed late balked lost : Prop}

omit [Clock τ] in
theorem Phase.Follows.mono {closed' late' balked' lost' : Prop}
    (h : p.Follows s closed late balked lost) (hc : closed → closed') (ht : late → late')
    (hb : balked → balked') (hl : lost → lost') : p.Follows s closed' late' balked' lost' := by
  cases p with
  | awaitAuth | enter => exact h
  | giveUp => exact ht h
  | leave => exact hc h
  | ended r =>
    refine h.imp hc (Or.imp ht (Or.imp hb fun ⟨o, hw, ho, hy⟩ ↦ ⟨o, hw, ho, ?_⟩))
    cases hy with
    | granted hg hi hs => exact .granted hg hi (hs.imp_right hl)
    | refused hg hs => exact .refused hg hs
    | undecodable hs => exact .undecodable hs
    | dropped hx => exact .dropped hx
    | cancelled => exact .cancelled
  | _ => exact h.elim

omit [Clock τ] in
theorem eq_singleton_of_getD {os : List (Future AuthResponse)} (hl : os.length = 1)
    (h : os.getD 0 .pending = o) : os = [o] := by
  obtain ⟨u, rfl⟩ := List.length_eq_one_iff.1 hl
  exact congrArg ([·]) h

theorem yields_step {r : Except Error (Option Classification)}
    (hat : Occurs (Attempts n) (start settings files) es)
    (hp : ((start settings files).run es).callers[n]? = some (.ended r))
    (h : Yields ((start settings files).run es) lost o r) (e : Event τ) :
    Closes ((start settings files).run es) e ∨
      Yields (((start settings files).run es).step e)
        (lost ∨ Loses ((start settings files).run es) e) o r := by
  have hfailed (hs : ((start settings files).run es).state = .failed) :
      Closes ((start settings files).run es) e ∨
        (((start settings files).run es).step e).state = .failed := by
    obtain hsame | ⟨-, hc | ha⟩ := state_step_of_others hat hp (.inr ⟨r, rfl⟩) (e := e)
    · exact .inr (hsame.trans hs)
    · exact .inl hc
    · cases ha.symm.trans hs
  cases h with
  | granted hg hi hs =>
    have hi' := sessionId_stays hi [e]
    rw [run_concat] at hi'
    obtain hs | hl := hs
    · obtain ha | hc | hl := authenticated_step (handshake_run settings files es) hs e
      · exact .inr (.granted hg hi' (.inl ha))
      · exact .inl hc
      · exact .inr (.granted hg hi' (.inr (.inr hl)))
    · exact .inr (.granted hg hi' (.inr (.inl hl)))
  | refused hg hs => exact (hfailed hs).imp id (.refused hg)
  | undecodable hs => exact (hfailed hs).imp id .undecodable
  | dropped hx => exact .inr (.dropped hx)
  | cancelled => exact .inr .cancelled

theorem follows_step (hat : Occurs (Attempts n) (start settings files) es)
    (hp : ((start settings files).run es).callers[n]? = some p)
    (h : p.Follows ((start settings files).run es) (Occurs Closes (start settings files) es)
      (Occurs TimesOut (start settings files) es) (Occurs (Balks n) (start settings files) es)
      (Occurs Loses (start settings files) es))
    (e : Event τ) :
    p.Follows (((start settings files).run es).step e)
      (Occurs Closes (start settings files) (es ++ [e]))
      (Occurs TimesOut (start settings files) (es ++ [e]))
      (Occurs (Balks n) (start settings files) (es ++ [e]))
      (Occurs Loses (start settings files) (es ++ [e])) := by
  cases p with
  | awaitAuth => exact h
  | giveUp => exact h.concat e
  | enter => exact waiters_step (by simp) h e
  | leave => exact h.concat e
  | ended r =>
    obtain hc | ht | hb | ⟨o, hw, ho, hy⟩ := h
    · exact .inl (hc.concat e)
    · exact .inr (.inl (ht.concat e))
    · exact .inr (.inr (.inl (hb.concat e)))
    · obtain hc | hy := yields_step hat hp hy e
      · exact .inl (occurs_concat.2 (.inr hc))
      · rw [← occurs_concat] at hy
        exact .inr (.inr (.inr ⟨o, waiters_step ho hw e, ho, hy⟩))
  | _ => exact h.elim

theorem Manage.follows {left : Prop} (h : Manage s p sig p' s') (hp : s.callers[n]? = some p)
    (ha : p.IsAttempt) (hshake : Handshake s) (hst : p.Attempted s.state closed left)
    (hf : p.Follows s closed late balked lost) (cs : List (Phase τ)) :
    p'.Follows { s' with callers := cs } closed (late ∨ TimesOut s (.move n sig))
      (balked ∨ Balks n s (.move n sig)) lost := by
  have hwaiters {w : Nat} {k : Option τ} {o : Future AuthResponse}
      (hq : s.callers[n]? = some (.awaitAuth w k))
      (hg : s.receiver.waiters.getD w .pending = o) : s.receiver.waiters = [o] := by
    obtain ⟨rfl, hl⟩ := hshake.stands hq trivial
    exact eq_singleton_of_getD hl hg
  have hrefuse (hs : s.state = .connecting) : s.failConnecting.state = .failed ∧
      s.failConnecting.receiver = s.receiver := by
    simp [failConnecting, hs]
  cases h with
  | stay =>
    cases p with
    | giveUp => exact .inl hf
    | awaitAuth | enter | leave => exact hf
    | ended =>
      obtain hc | ⟨r, hr⟩ := ha
      · exact hc.elim
      · cases hr
    | _ => exact hf.elim
  | balk hg he => exact .inr (.inr (.inl (.inr ⟨_, _, _, rfl, hp, hg, he⟩)))
  | answered hg => exact hwaiters hp hg
  | refused hg =>
    -- The session is still connecting, or somebody has closed it.
    obtain hs | ⟨-, hc⟩ := hst
    · obtain ⟨hfailed, hr⟩ := hrefuse hs
      exact .inr (.inr (.inr ⟨_, hr ▸ hwaiters hp hg, by simp, .undecodable hfailed⟩))
    · exact .inl hc
  | @dropped w k x hg hx =>
    obtain ⟨st, he⟩ := s.closedBy_eq x
    rw [he]
    exact .inr (.inr (.inr ⟨_, hwaiters hp hg, by simp, .dropped hx⟩))
  | cancelled hg => exact .inr (.inr (.inr ⟨_, hwaiters hp hg, by simp, .cancelled⟩))
  | strike hlt hw => exact .inr ⟨n, _, _, rfl, hp, hlt, hw⟩
  | giveUp => exact .inr (.inl (.inl hf))
  | refuseEntry hg =>
    obtain hs | ⟨-, hc⟩ := hst
    · obtain ⟨hfailed, hr⟩ := hrefuse hs
      exact .inr (.inr (.inr ⟨_, hr ▸ hf, by simp, .refused hg hfailed⟩))
    · exact .inl hc
  | enter hg => exact .inr (.inr (.inr ⟨_, hf, by simp, .granted hg rfl (.inl rfl)⟩))
  | enterLate _ hs => exact (hst.resolve_left hs).2
  | leave => exact .inl hf
  | _ => exact hf.elim

theorem follows_run (h : Occurs (Presents n) (start settings files) es) :
    Occurs (Attempts n) (start settings files) es ∧
      ∃ p, ((start settings files).run es).callers[n]? = some p ∧
        p.Follows ((start settings files).run es) (Occurs Closes (start settings files) es)
          (Occurs TimesOut (start settings files) es) (Occurs (Balks n) (start settings files) es)
          (Occurs Loses (start settings files) es) := by
  induction es using List.reverseRecOn with
  | nil => exact absurd h not_occurs_nil
  | append_singleton es e ih =>
    have hshake := handshake_run settings files es
    rw [run_concat]
    obtain h | h := occurs_concat.1 h
    · obtain ⟨hat, p, hp, hf⟩ := ih h
      refine ⟨hat.concat e, ?_⟩
      have hlater := follows_step hat hp hf e
      obtain ⟨hp', -⟩ | ⟨sig, rfl, hp'⟩ := callers_step hp e
      · exact ⟨p, hp', hlater⟩
      · obtain ⟨q, hq, ha | ⟨r, rfl⟩⟩ := caller_of_attempts hat
        all_goals obtain rfl := Option.some_inj.1 (hq.symm.trans hp)
        · refine ⟨_, hp', ?_⟩
          obtain ⟨q', hq', hst⟩ := attempted_run hat
          obtain rfl := Option.some_inj.1 (hq'.symm.trans hp)
          have hman := manage_moved n ((start settings files).run es) sig ha.not_isAsk
          rw [step_move hp]
          exact (hman.follows hp ha hshake hst hf _).mono (·.concat _) occurs_concat.2
            occurs_concat.2 (·.concat _)
        · exact ⟨.ended r, ended_stays hp _, hlater⟩
    · obtain ⟨x, w, o, k, u, rfl, hp, -, hm⟩ := h.moved
      have hst := hshake.stands hp trivial
      exact ⟨(attempts_of_isAttempt hp (.inl trivial)).concat _, .awaitAuth w k,
        by rw [caller_move hp, hm], hst.1⟩

/-- The caller ends after it has gone on so many times, its answer being there. -/
inductive Phase.NearsEnd : Nat → Phase τ → Prop
  | awaitAuth (w : Option τ) : NearsEnd 3 (.awaitAuth 0 w)
  | enter (a : AuthResponse) : NearsEnd 2 (.enter a)
  | leave (x : Error) : NearsEnd 1 (.leave x)
  | ended (r : Except Error (Option Classification)) : NearsEnd 0 (.ended r)

omit [Clock τ] in
theorem Phase.Follows.nearsEnd (h : p.Follows s closed late balked lost) (ht : ¬late) :
    ∃ k ≤ 3, p.NearsEnd k := by
  cases p with
  | awaitAuth w wake =>
    obtain rfl : w = 0 := h
    exact ⟨3, Nat.le_refl 3, .awaitAuth wake⟩
  | giveUp => exact absurd h ht
  | enter a => exact ⟨2, by omega, .enter a⟩
  | leave x => exact ⟨1, by omega, .leave x⟩
  | ended r => exact ⟨0, by omega, .ended r⟩
  | _ => exact h.elim

theorem Phase.NearsEnd.go (h : p.NearsEnd k) (hw : s.receiver.waiters = [o]) (ho : o ≠ .pending) :
    ∃ k' ≤ k - 1, (s.moved n p .go).1.NearsEnd k' := by
  cases h with
  | awaitAuth w =>
    simp only [moved, hw, List.getD_cons_zero, authSettled]
    cases o with
    | pending => exact absurd rfl ho
    | done a => exact ⟨2, Nat.le_refl 2, .enter a⟩
    | failed x => cases x <;> exact ⟨0, Nat.zero_le 2, .ended _⟩
    | cancelled => exact ⟨0, Nat.zero_le 2, .ended _⟩
  | enter a =>
    simp only [moved, enterStep]
    split
    · exact ⟨0, Nat.zero_le 1, .ended _⟩
    · split
      · exact ⟨0, Nat.zero_le 1, .ended _⟩
      · exact ⟨1, Nat.le_refl 1, .leave _⟩
  | leave x => exact ⟨0, Nat.le_refl 0, .ended _⟩
  | ended r => exact ⟨0, Nat.le_refl 0, .ended r⟩

theorem Phase.NearsEnd.halt (h : p.NearsEnd k) (hw : s.receiver.waiters = [o]) (ho : o ≠ .pending)
    (hs : sig ≠ .go) : (s.moved n p sig).1 = p := by
  cases h with
  | awaitAuth w =>
    have hsettled := isPending_of_ne_pending ho
    cases sig with
    | go => exact absurd rfl hs
    | struck =>
      cases w with
      | none => rfl
      | some w => simp [moved, hw, hsettled]
    | opened | written | answered => cases w <;> rfl
  | enter | leave | ended => cases sig <;> first | exact absurd rfl hs | rfl

/-- A caller whose answer is there ends after a few steps of its own, whatever else happens. -/
theorem nearsEnd_run (hw : ((start settings files).run es).receiver.waiters = [o])
    (ho : o ≠ .pending) (hp : ((start settings files).run es).callers[n]? = some p)
    (h : p.NearsEnd k) (fs : List (Event τ)) :
    ∃ k' p', ((start settings files).run (es ++ fs)).callers[n]? = some p' ∧
      (((start settings files).run (es ++ fs)).receiver.waiters = [o] ∧ p'.NearsEnd k') ∧
        k' ≤ k - goes n fs := by
  refine goes_run (A := fun _ ↦ True)
    (P := fun es k p ↦ ((start settings files).run es).receiver.waiters = [o] ∧ p.NearsEnd k)
    (fun {es k p e} _ hp h ↦ ?_) hp ⟨hw, h⟩ fs (fun _ _ ↦ trivial)
  obtain ⟨hw, h⟩ := h
  rw [run_concat]
  have hw' := waiters_step ho hw e
  obtain ⟨hp', hn⟩ | ⟨sig, rfl, hp'⟩ := callers_step hp e
  · exact ⟨k, p, hp', ⟨hw', h⟩, le_sub_goes fun he ↦ absurd he (hn .go)⟩
  · by_cases hs : sig = .go
    · subst hs
      obtain ⟨k', hk', hnext⟩ := h.go hw ho
      have hle : goes n [(.move n .go : Event τ)] ≤ 1 := goes_move_le n .go
      exact ⟨k', _, hp', ⟨hw', hnext⟩, by omega⟩
    · rw [h.halt hw ho hs] at hp'
      exact ⟨k, p, hp', ⟨hw', h⟩, le_sub_goes fun he ↦ absurd (Event.move.inj he).2 hs⟩

end VerdictClient.Session
