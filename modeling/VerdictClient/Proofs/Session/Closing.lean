import VerdictClient.Proofs.Session.Aftermath
import VerdictClient.Proofs.Session.EndOfReading

namespace VerdictClient.Session

variable {τ : Type}

def IsGone (s : Session τ) : Prop :=
  s.installed = true → ∀ t, s.connection = some t → t.closed = true

variable {s s' : Session τ} {n k : Nat} {p p' : Phase τ} {sig : Signal} {e : Event τ}

theorem write_of_closed (h : ∀ t, s.connection = some t → t.closed = true) {f : Text}
    {o : Option Failure} {r : Except Error Unit} (hw : s.write f o = (r, s')) :
    s'.connection = s.connection := by
  unfold write at hw
  split at hw
  · rw [← (Prod.mk.inj hw).2]
  · next t ht =>
    have hs : s'.connection = some (t.send f o).2 := by rw [← (Prod.mk.inj hw).2]
    rw [hs, Transport.send_of_closed (h t ht), ht]

theorem closeConnection_of_closed (h : ∀ t, s.connection = some t → t.closed = true) :
    s.closeConnection = s := by
  have hc : s.connection.map Transport.close = s.connection := by
    cases ht : s.connection with
    | none => rfl
    | some t => rw [Option.map_some, Transport.close_of_closed (h t ht)]
  unfold closeConnection
  rw [hc]

theorem isGone_closeConnection (s : Session τ) : s.closeConnection.IsGone := by
  intro _ t ht
  obtain ⟨u, -, rfl⟩ := Option.map_eq_some_iff.1 ht
  exact u.closed_close

variable [Clock τ]

theorem Advance.connection_of_closed (h : Advance n s p sig p' s')
    (hc : ∀ t, s.connection = some t → t.closed = true) : s'.connection = s.connection := by
  cases h with
  | breakOff _ hw | breakClosed _ hw | written _ hw =>
    have hconn := write_of_closed hc hw
    exact hconn
  | _ => rfl

theorem Manage.connection_of_closed (h : Manage s p sig p' s') (ho : ¬p.IsOpening)
    (hc : ∀ t, s.connection = some t → t.closed = true) : s'.connection = s.connection := by
  cases h with
  | opened => exact absurd trivial ho
  | failOpening | dropped | cancelled => exact (s.closedBy_frame _).1
  | failGreeting _ hw => exact (closedBy_frame _ _).1.trans (write_of_closed hc hw)
  | greet _ hw => exact write_of_closed hc hw
  | refused | refuseEntry => exact s.failConnecting_frame.1
  | giveUp => exact (s.withReceiver s.receiver.cancelAuth).failConnecting_frame.1
  | leave => rw [closeConnection_of_closed hc]
  | disconnect =>
    split
    · rw [closeConnection_of_closed hc]
    · rfl
  | join => split <;> rfl
  | _ => rfl

theorem connection_of_closed (h : Attached s) (hi : s.installed = true)
    (hc : ∀ t, s.connection = some t → t.closed = true) (e : Event τ) :
    (s.step e).connection = s.connection := by
  obtain he | ⟨m, p, sig, rfl, hp, -⟩ | ⟨f, rfl, hr⟩ := s.connection_step e
  · exact he
  · obtain he | ⟨p', s', hadv | hman, he, -⟩ := move_cases hp sig <;> rw [he]
    · exact hadv.connection_of_closed hc
    · exact hman.connection_of_closed ((h.alone hi).2 m p hp) hc
  · simp only [step, lostStep, hr]
    cases ht : s.connection with
    | none => exact ht
    | some t => simp only [Transport.fail_of_closed (hc t ht)]

theorem installed_of_closed (hs : s.state = .closed) (e : Event τ) :
    (s.step e).installed = s.installed := by
  obtain hi | ⟨hne, -⟩ := s.installed_step e
  · exact hi
  · exact absurd hs hne

theorem IsGone.step (hg : s.IsGone) (h : Attached s) (hs : s.state = .closed) (e : Event τ) :
    (s.step e).IsGone := by
  intro hi t ht
  rw [installed_of_closed hs] at hi
  rw [connection_of_closed h hi (hg hi)] at ht
  exact hg hi t ht

theorem receiverLog_step (hl : s.receiver.log = []) (e : Event τ) : (s.step e).receiver.log = [] := by
  cases e with
  | call i => exact hl
  | move n sig =>
    cases hp : s.callers[n]? with
    | none => rwa [step_move_of_none hp]
    | some p =>
      obtain h | ⟨p', s', hadv | hman, h, -⟩ := move_cases hp sig <;> rw [h]
      · exact hl
      · obtain ⟨t, c, k, ps, ls, rfl⟩ := hadv.eq_with
        exact hl
      · obtain hr | ⟨r, hr, -⟩ := hman.handles
        · exact (congrArg Receiver.log hr).trans hl
        · exact congrArg Receiver.log hr
  | frame f =>
    simp only [step, frameStep]
    split
    · split <;> rfl
    · exact hl
  | lost f =>
    simp only [step, lostStep]
    split <;> exact hl
  | reader =>
    simp only [step, readerStep, reportLoss]
    split <;> first | rfl | exact hl | (split <;> exact hl)
  | clock t =>
    simp only [step]
    split <;> exact hl

theorem receiverLog_run (settings : Settings τ) (files : FileSystem) (es : List (Event τ)) :
    ((start settings files).run es).receiver.log = [] := by
  induction es using List.reverseRecOn with
  | nil => rfl
  | append_singleton es e ih =>
    rw [run_concat]
    exact receiverLog_step ih e

def Comes (n : Nat) (i : Invocation τ) (s : Session τ) (e : Event τ) : Prop :=
  e = .call i ∧ s.callers.length = n

/-- What has been done when a caller that closes the session stands where it does. -/
def Phase.HasDone (shut : Prop) (s : Session τ) : Phase τ → Prop
  | .close => True
  | .failAll _ b => s.state = .closed ∧ (s.installed = true → b = true)
  | .disconnect _ b => s.state = .closed ∧ (s.installed = true → b = true) ∧ shut
  | .join _ => s.state = .closed ∧ s.IsGone ∧ shut
  | .ended r => s.state = .closed ∧ s.IsGone ∧ shut ∧ r = .ok none
  | _ => False

omit [Clock τ] in
theorem Phase.HasDone.not_isAsk {shut : Prop} (h : p.HasDone shut s) : ¬p.IsAsk := by
  cases p <;> first | exact id | exact h.elim

theorem Phase.HasDone.later {shut shut' : Prop} (h : p.HasDone shut s) (ha : Attached s)
    (hshut : shut → shut') (e : Event τ) : p.HasDone shut' (s.step e) := by
  cases p with
  | close => trivial
  | failAll =>
    obtain ⟨hs, hi⟩ := h
    exact ⟨closed_step hs e, by rwa [installed_of_closed hs]⟩
  | disconnect =>
    obtain ⟨hs, hi, hsh⟩ := h
    exact ⟨closed_step hs e, by rwa [installed_of_closed hs], hshut hsh⟩
  | join =>
    obtain ⟨hs, hg, hsh⟩ := h
    exact ⟨closed_step hs e, hg.step ha hs e, hshut hsh⟩
  | ended =>
    obtain ⟨hs, hg, hsh, hr⟩ := h
    exact ⟨closed_step hs e, hg.step ha hs e, hshut hsh, hr⟩
  | _ => exact h.elim

variable {settings : Settings τ} {files : FileSystem} {es : List (Event τ)}

theorem hasDone_step (hp : ((start settings files).run es).callers[n]? = some p)
    (h : p.HasDone (Occurs Shuts (start settings files) es) ((start settings files).run es))
    (e : Event τ) :
    ∃ p', ((start settings files).run (es ++ [e])).callers[n]? = some p' ∧
      p'.HasDone (Occurs Shuts (start settings files) (es ++ [e]))
        ((start settings files).run (es ++ [e])) := by
  have hatt := attached_run settings files es
  have hlater := h.later hatt (fun hs ↦ Occurs.concat hs e) e
  rw [run_concat]
  obtain ⟨hp', -⟩ | ⟨sig, rfl, hp'⟩ := callers_step hp e
  · exact ⟨p, hp', hlater⟩
  · refine ⟨_, hp', ?_⟩
    have hman := manage_moved n ((start settings files).run es) sig h.not_isAsk
    have hstep := step_move hp sig
    generalize (((start settings files).run es).moved n p sig).1 = p',
      (((start settings files).run es).moved n p sig).2 = s' at hman hstep
    cases hman with
    | stay => exact hlater
    | close =>
      rw [hstep]
      exact ⟨rfl, id⟩
    | failAll =>
      have hshut : Shuts ((start settings files).run es) (.move n .go) := .inl ⟨n, _, _, rfl, hp⟩
      obtain ⟨hs, hi⟩ := hlater
      exact ⟨hs, hi, occurs_concat.2 (.inr hshut)⟩
    | @disconnect b₁ b₂ =>
      obtain ⟨hs, hi, hshut⟩ := hlater
      refine ⟨hs, ?_, hshut⟩
      rw [hstep]
      cases b₂ with
      | true => exact isGone_closeConnection ((start settings files).run es)
      | false =>
        -- There was no connection to close, and a closed session does not get one any more.
        intro hinst
        cases h.2.1 hinst
    | join =>
      obtain ⟨hs, hg, hshut⟩ := hlater
      exact ⟨hs, hg, hshut, rfl⟩
    | _ => exact h.elim

theorem hasDone_run (h : Occurs (Comes n .close) (start settings files) es) :
    ∃ p, ((start settings files).run es).callers[n]? = some p ∧
      p.HasDone (Occurs Shuts (start settings files) es) ((start settings files).run es) := by
  induction es using List.reverseRecOn with
  | nil => exact absurd h not_occurs_nil
  | append_singleton es e ih =>
    obtain h | ⟨rfl, rfl⟩ := occurs_concat.1 h
    · obtain ⟨p, hp, hd⟩ := ih h
      exact hasDone_step hp hd e
    · refine ⟨.close, ?_, trivial⟩
      rw [run_concat]
      exact List.getElem?_concat_length

/-- A call that closes the session has come back. -/
def ClosesAndReturns (s : Session τ) (es : List (Event τ)) : Prop :=
  ∃ n r, Occurs (Comes n .close) s es ∧ (s.run es).callers[n]? = some (.ended r)

theorem ClosesAndReturns.hasDone (h : ClosesAndReturns (start settings files) es) :
    ((start settings files).run es).state = .closed ∧ ((start settings files).run es).IsGone ∧
      Occurs Shuts (start settings files) es := by
  obtain ⟨n, r, hcome, hend⟩ := h
  obtain ⟨p, hp, hd⟩ := hasDone_run hcome
  obtain rfl : p = .ended r := Option.some_inj.1 (hp.symm.trans hend)
  exact ⟨hd.1, hd.2.1, hd.2.2.1⟩

theorem shuts_of_ended (h : ((start settings files).run es).reader = .ended) :
    Occurs Shuts (start settings files) es := by
  have hdone := done_run settings files es
  rw [h] at hdone
  obtain ⟨c, -, -, es₁, e, es₂, hes, hf⟩ := hdone
  exact ⟨es₁, e, es₂, hes, hf.shuts⟩

/-- Everything that closing does has been done. -/
structure IsOver (s : Session τ) : Prop where
  closed : s.state = .closed
  gone : s.IsGone
  pending : s.correlator.pending = []
  shut : s.correlator.closed.isSome
  quiet : s.receiver.log = []
  attached : Attached s

theorem ClosesAndReturns.isOver (h : ClosesAndReturns (start settings files) es) :
    ((start settings files).run es).IsOver := by
  obtain ⟨hs, hg, hshut⟩ := h.hasDone
  exact ⟨hs, hg, pending_of_shuts hshut, closed_of_shuts hshut, receiverLog_run settings files es,
    attached_run settings files es⟩

theorem ClosesAndReturns.concat (h : ClosesAndReturns s es) (e : Event τ) :
    ClosesAndReturns s (es ++ [e]) := by
  obtain ⟨n, r, hcome, hend⟩ := h
  exact ⟨n, r, hcome.concat e, by rw [run_concat]; exact ended_stays hend e⟩

/-- The caller closes a session that is closed, and comes back after it has gone on so many times. -/
inductive Phase.ClosesAgain : Nat → Phase τ → Prop
  | close : ClosesAgain 4 .close
  | failAll (b : Bool) : ClosesAgain 3 (.failAll true b)
  | disconnect (b : Bool) : ClosesAgain 2 (.disconnect true b)
  | join : ClosesAgain 1 (.join true)
  | ended : ClosesAgain 0 (.ended (.ok none))

omit [Clock τ] in
theorem failAll_of_closed {c : Correlator τ} (hp : c.pending = []) (hc : c.closed.isSome)
    (cause : ClosedCause) : c.failAll cause = c ∧ c.failAllLog cause = [] := by
  obtain ⟨why, hwhy⟩ := Option.isSome_iff_exists.1 hc
  constructor
  · simp only [Correlator.failAll, hp, hwhy, List.foldl_nil, Option.some_or]
    rw [← hp, ← hwhy]
  · simp only [Correlator.failAllLog, hp, List.isEmpty_nil, if_true]

omit [Clock τ] in
theorem IsOver.failRequests (h : s.IsOver) (cause : ClosedCause) :
    s.withReceiver (s.receiver.failRequests cause) = s := by
  obtain ⟨hfail, hlog⟩ := failAll_of_closed h.pending h.shut cause
  have hq := h.quiet
  unfold correlator at hfail hlog
  unfold withReceiver Receiver.failRequests
  rw [hfail, hlog, hq, List.append_nil, List.append_nil, ← hq]

theorem Phase.ClosesAgain.go (h : p.ClosesAgain k) (ho : s.IsOver) (hp : s.callers[n]? = some p) :
    (s.moved n p .go).1.ClosesAgain (k - 1) ∧ (s.moved n p .go).2 = s := by
  cases h with
  | close =>
    have hs := ho.closed
    simp only [moved, closeStep, hs, decide_true]
    exact ⟨.failAll _, by rw [← hs]⟩
  | failAll b => exact ⟨.disconnect b, ho.failRequests _⟩
  | disconnect b =>
    refine ⟨.join, ?_⟩
    cases b with
    | false => rfl
    | true =>
      -- The connection that the caller saw is the one of the session, which is closed.
      exact closeConnection_of_closed (ho.gone (ho.attached.needed hp trivial))
  | join => exact ⟨.ended, rfl⟩
  | ended => exact ⟨.ended, rfl⟩

theorem Phase.ClosesAgain.halt (h : p.ClosesAgain k) (hs : sig ≠ .go) :
    s.moved n p sig = (p, s) := by
  cases h <;> cases sig <;> first | exact absurd rfl hs | rfl

theorem closesAgain_step (ho : s.IsOver) (hp : s.callers[n]? = some p) (h : p.ClosesAgain k)
    (e : Event τ) :
    (∃ k' p', (s.step e).callers[n]? = some p' ∧ p'.ClosesAgain k' ∧ k' ≤ k - goes n [e]) ∧
      ∀ sig, e = .move n sig → ∃ p', s.step e = { s with callers := s.callers.set n p' } := by
  obtain ⟨hp', hn⟩ | ⟨sig, rfl, hp'⟩ := callers_step hp e
  · exact ⟨⟨k, p, hp', h, le_sub_goes fun he ↦ absurd he (hn .go)⟩, fun sig he ↦ absurd he (hn sig)⟩
  · by_cases hs : sig = .go
    · subst hs
      obtain ⟨hnext, hsame⟩ := h.go ho hp
      have hle : goes n [(.move n .go : Event τ)] ≤ 1 := goes_move_le n .go
      refine ⟨⟨k - 1, _, hp', hnext, by omega⟩, fun _ _ ↦ ⟨(s.moved n p .go).1, ?_⟩⟩
      rw [step_move hp, hsame]
    · have hstay : s.moved n p sig = (p, s) := h.halt hs
      rw [hstay] at hp'
      refine ⟨⟨k, p, hp', h, le_sub_goes fun he ↦ absurd (Event.move.inj he).2 hs⟩,
        fun _ _ ↦ ⟨p, ?_⟩⟩
      rw [step_move hp, hstay]

theorem closesAgain_run (h : ClosesAndReturns (start settings files) es)
    (hn : n = ((start settings files).run es).callers.length) (fs : List (Event τ)) :
    ∃ k p, ((start settings files).run (es ++ [.call .close] ++ fs)).callers[n]? = some p ∧
      (ClosesAndReturns (start settings files) (es ++ [.call .close] ++ fs) ∧ p.ClosesAgain k) ∧
        k ≤ 4 - goes n fs := by
  have hfirst : ((start settings files).run (es ++ [.call .close])).callers[n]? = some .close := by
    rw [run_concat, hn]
    exact List.getElem?_concat_length
  refine goes_run (P := fun es k p ↦ ClosesAndReturns (start settings files) es ∧ p.ClosesAgain k)
    (A := fun _ ↦ True) (fun {es k p e} _ hp h ↦ ?_) hfirst ⟨h.concat _, .close⟩ fs
    (fun _ _ ↦ trivial)
  obtain ⟨⟨k', p', hp', hagain, hk⟩, -⟩ := closesAgain_step h.1.isOver hp h.2 e
  exact ⟨k', p', by rwa [run_concat], ⟨h.1.concat e, hagain⟩, hk⟩

/-- To close a session once more changes nothing but where the caller that does so stands, and it comes
back. -/
theorem closes_again (h : ClosesAndReturns (start settings files) es)
    (hn : n = ((start settings files).run es).callers.length) :
    (∀ fs sig, ∃ p, (start settings files).run (es ++ [.call .close] ++ fs ++ [.move n sig]) =
        { (start settings files).run (es ++ [.call .close] ++ fs) with
          callers := ((start settings files).run (es ++ [.call .close] ++ fs)).callers.set n p }) ∧
      EndsWith n 4 (.ok none) ((start settings files).run (es ++ [.call .close])) := by
  refine ⟨fun fs sig ↦ ?_, fun fs ↦ ?_⟩
  · obtain ⟨k, p, hp, ⟨hret, hagain⟩, -⟩ := closesAgain_run h hn fs
    rw [run_concat]
    exact (closesAgain_step hret.isOver hp hagain (.move n sig)).2 sig rfl
  · obtain ⟨k, p, hp, ⟨-, hagain⟩, hk⟩ := closesAgain_run h hn fs
    rw [← run_append]
    refine ⟨fun r hr ↦ ?_, fun hgo ↦ ?_⟩
    · obtain rfl : p = .ended r := Option.some_inj.1 (hp.symm.trans hr)
      cases hagain with
      | ended => rfl
    · obtain rfl : k = 0 := by omega
      cases hagain with
      | ended => exact hp

/-- What callers find in a session whose requests have all been failed. -/
structure IsShut (settings : Settings τ) (files : FileSystem) (es : List (Event τ)) : Prop where
  pending : ((start settings files).run es).correlator.pending = []
  /-- Calls that come now end in three steps. -/
  later : ∀ a, a.IsInOrder ((start settings files).run es) →
    EndsClosed ((start settings files).run es).callers.length 3
      ((start settings files).run (es ++ [.call (.ask a)]))
  /-- Callers that have not registered, for the first response or for a final one, do not any more. -/
  unregistered : ∀ n j,
    (((start settings files).run es).callers[n]? = some (.check j) →
      EndsClosed n 2 ((start settings files).run es)) ∧
    (((start settings files).run es).callers[n]? = some (.register j) →
      EndsClosed n 1 ((start settings files).run es)) ∧
    ∀ x b l, ((start settings files).run es).callers[n]? = some (.registerFinal j x b l) →
      EndsClosed n 1 ((start settings files).run es)
  sending : ∀ n j k o, ((start settings files).run es).callers[n]? = some (.send j k) →
    ((start settings files).run es).correlator.HasFailed k →
    EndsClosed n 1 ((start settings files).run (es ++ [.move n (.written o)])) ∨
      ∃ r, ((start settings files).run (es ++ [.move n (.written o)])).callers[n]? =
          some (.ended (.error r)) ∧
        ((∃ c, r = .unencodable c) ∨ ∃ f, o = some f ∧ r = .ofFailure f)
  waiting : ∀ n j st k w, ((start settings files).run es).callers[n]? = some (.await j st k w) →
    ∃ t, ((start settings files).run es).correlator.ticket? k = some t ∧
      ((∀ v, t.outcome ≠ .done v) → ∃ c,
        ((start settings files).run (es ++ [.move n .go])).callers[n]? =
          some (.ended (.error (.closed c))))
  unstarted : ∀ n j k x b l r,
    ((start settings files).run es).callers[n]? = some (.upload j k x b l) →
    Upload.start ((start settings files).run es).files x
      ⟨((start settings files).run es).settings.uploadTimeout, l⟩ b = .error r →
    ((∃ u, r = .upload u) ∨ ∃ e, r = .file e ∧ e.isSystem = false) ∧
      EndsWith n 1 (.error r) ((start settings files).run (es ++ [.move n .go]))
  uploadFails : ∀ n j k x b o r,
    ((start settings files).run es).callers[n]? = some (.uploading j k x b) →
    Upload.finish x b o = .error r →
    ((∃ u, r = .upload u) ∨ ∃ f, o = .error f ∧ f.isSystem = false ∧ r = .ofFailure f) ∧
      EndsWith n 1 (.error r) ((start settings files).run (es ++ [.move n (.answered o)]))
  uploadSucceeds : ∀ n j k x b o l,
    ((start settings files).run es).callers[n]? = some (.uploading j k x b) →
    Upload.finish x b o = .ok l →
    ∃ t, ((start settings files).run es).correlator.ticket? k = some t ∧
    ∀ fs,
      (∀ r, ((start settings files).run (es ++ .move n (.answered o) :: fs)).callers[n]? =
        some (.ended r) → Gives t.outcome r) ∧
      (2 ≤ goes n fs → ∃ r,
        ((start settings files).run (es ++ .move n (.answered o) :: fs)).callers[n]? =
          some (.ended r))

theorem isShut_of_shuts (h : Occurs Shuts (start settings files) es) : IsShut settings files es where
  pending := pending_of_shuts h
  later a ha := by
    have hcaller : ((start settings files).run (es ++ [.call (.ask a)])).callers[
        ((start settings files).run es).callers.length]? = some (.ask a) := by
      rw [run_concat]
      exact List.getElem?_concat_length
    exact (Phase.IsDoomed.ask (ha.step _)).endsClosed (h.concat _) hcaller
  unregistered n j := ⟨Phase.IsDoomed.check.endsClosed h, Phase.IsDoomed.register.endsClosed h,
    fun x b l ↦ Phase.IsDoomed.registerFinal.endsClosed h⟩
  sending n j k o hp hk := send_of_shuts h hp hk o
  waiting n j st k w hp := by
    obtain ⟨t, ht, hset⟩ := settled_of_shuts h hp rfl
    refine ⟨t, ht, fun hne ↦ ?_⟩
    rw [run_concat]
    exact await_of_isLost hp ht (hset.resolve_left fun ⟨v, hv⟩ ↦ hne v hv)
  unstarted n j k x b l r hp hf := by
    rw [run_concat]
    exact ⟨error_of_start hf, upload_unstarted hp hf⟩
  uploadFails n j k x b o r hp hf := by
    rw [run_concat]
    exact ⟨error_of_finish hf, upload_fails hp hf⟩
  uploadSucceeds n j k x b o l hp hf := by
    obtain ⟨t, ht, -⟩ := settled_of_shuts h hp rfl
    exact ⟨t, ht, upload_succeeds h hp ht hf⟩

/-- When a call that closes the session has come back, or reading has ended, all requests have been
failed: nobody is left in the correlator, who waited and had no answer ends at once, and nobody who has
not registered does so any more. Who was uploading when that happened ends with the error of the upload,
or with the final verdict if that had come before. To close the session once more changes nothing. -/
theorem closing_reaches_everyone (settings : Settings τ) (files : FileSystem) (es : List (Event τ)) :
    (ClosesAndReturns (start settings files) es ∨ ((start settings files).run es).reader = .ended →
      Occurs Shuts (start settings files) es) ∧
    (Occurs Shuts (start settings files) es → IsShut settings files es) ∧
    (∀ e, Shuts ((start settings files).run es) e → ∀ n p j st k t,
      ((start settings files).run es).callers[n]? = some p → p.hold? = some (j, st, k) →
      ((start settings files).run es).correlator.ticket? k = some t → t.outcome = .pending →
      (∀ fs, ((start settings files).run (es ++ e :: fs)).correlator.HasFailed k) ∧
        ∀ w, p = .await j st k w ∨ p = .expire j st k →
          EndsClosed n 1 ((start settings files).run (es ++ [e]))) ∧
    (ClosesAndReturns (start settings files) es →
      ∀ n, n = ((start settings files).run es).callers.length →
      (∀ fs sig, ∃ p, (start settings files).run (es ++ [.call .close] ++ fs ++ [.move n sig]) =
        { (start settings files).run (es ++ [.call .close] ++ fs) with
          callers := ((start settings files).run (es ++ [.call .close] ++ fs)).callers.set n p }) ∧
      EndsWith n 4 (.ok none) ((start settings files).run (es ++ [.call .close]))) := by
  refine ⟨fun h ↦ ?_, isShut_of_shuts, fun e he n p j st k t hp hh ht ho ↦ ?_,
    fun h n hn ↦ closes_again h hn⟩
  · obtain h | h := h
    · exact h.hasDone.2.2
    · exact shuts_of_ended h
  · have hshut : Occurs Shuts (start settings files) (es ++ [e]) := occurs_concat.2 (.inr he)
    have hk := hasFailed_of_shuts he hp hh ht ho
    refine ⟨fun fs ↦ ?_, fun w hw ↦ ?_⟩
    · have hrun := hasFailed_run hshut hk fs
      rwa [List.append_assoc, List.singleton_append] at hrun
    · have hp' := caller_of_shuts he hp (Phase.isAsk_of_hold? hh)
      rw [← run_concat] at hp'
      obtain rfl | rfl := hw
      · exact (Phase.IsDoomed.await hk).endsClosed hshut hp'
      · exact (Phase.IsDoomed.expire hk).endsClosed hshut hp'

def Sample.parting (n : Nat) : List (Event Int) := .call .close :: List.replicate 4 (.move n .go)

theorem Sample.parting_callers {s : Session Int} (hn : n = s.callers.length) :
    (s.run (Sample.parting n)).callers[n]? = some (.ended (.ok none)) ∧
      ∀ (m : Nat) (p : Phase Int), s.callers[m]? = some p →
        (s.run (Sample.parting n)).callers[m]? = some p := by
  constructor
  · have hcome : (s.step (.call .close)).callers[n]? = some .close := by
      rw [hn]
      exact List.getElem?_concat_length
    exact caller_move (caller_move (caller_move (caller_move hcome .go) .go) .go) .go
  · intro m p hp
    have hlt : m < s.callers.length := (List.getElem?_eq_some_iff.1 hp).1
    have hne : n ≠ m := by omega
    have hcome : (s.step (.call .close)).callers[m]? = some p := by
      rw [← hp]
      exact List.getElem?_append_left hlt
    simp only [Sample.parting, List.replicate, run_cons, run_nil, caller_others hne, hcome]

def Sample.uploading : List (Event Int) :=
  opening ++ asking 1 (.stream [] none) "g" ++
    [.move 1 (.written none), .frame (demand "g"), .move 1 .go, .move 1 .go, .move 1 .go]

set_option maxRecDepth 100000 in
theorem Sample.uploading_callers : ∃ p j x b,
    ((start Sample.settings .empty).run Sample.uploading).callers = [p, .uploading j 1 x b] :=
  ⟨_, _, _, _, by rfl⟩

def Sample.interruption : List (Event Int) := uploading ++ parting 2

theorem Sample.interruption_callers :
    ClosesAndReturns (start Sample.settings .empty) Sample.interruption ∧ ∃ j x b,
      ((start Sample.settings .empty).run Sample.interruption).callers[1]? =
        some (.uploading j 1 x b) := by
  obtain ⟨p, j, x, b, hc⟩ := Sample.uploading_callers
  obtain ⟨hend, hothers⟩ := Sample.parting_callers
    (show 2 = ((start Sample.settings .empty).run Sample.uploading).callers.length by rw [hc]; rfl)
  rw [← run_append] at hend
  refine ⟨⟨2, .ok none, ⟨Sample.uploading, .call .close, _, rfl, rfl, by rw [hc]; rfl⟩, hend⟩,
    j, x, b, ?_⟩
  have hup := hothers 1 (.uploading j 1 x b) (by rw [hc]; rfl)
  rwa [← run_append] at hup

theorem closing_reaches_everyone_interruption :
    ((start Sample.settings .empty).run Sample.interruption).correlator.pending = [] ∧
    (∃ u, EndsWith 1 1 (.error (.upload u))
      ((start Sample.settings .empty).run
        (Sample.interruption ++ [.move 1 (.answered (.ok (.ofUtf8 500 [])))]))) ∧
    ∃ n, EndsWith n 4 (.ok none)
      ((start Sample.settings .empty).run (Sample.interruption ++ [.call .close])) := by
  obtain ⟨hover, hshut, -, hagain⟩ :=
    closing_reaches_everyone Sample.settings .empty Sample.interruption
  obtain ⟨hreturns, j, x, b, hp⟩ := Sample.interruption_callers
  have hall := hshut (hover (.inl hreturns))
  obtain ⟨-, hend⟩ := hall.uploadFails 1 j 1 x b (.ok (.ofUtf8 500 [])) _ hp rfl
  exact ⟨hall.pending, ⟨_, hend⟩, _, (hagain hreturns _ rfl).2⟩

/-- An upload that breaks in a way that the client does not interpret fails as it broke. -/
theorem not_always_an_upload_error : ¬∀ (es : List (Event Int)) (n k : Nat) (j : Job Int)
    (x : Upload.Target) (b : Upload.Content) (o : Http.Outcome) (r : Error),
    ClosesAndReturns (start Sample.settings .empty) es →
    ((start Sample.settings .empty).run es).callers[n]? = some (.uploading j k x b) →
    Upload.finish x b o = .error r →
    ∃ u, ((start Sample.settings .empty).run (es ++ [.move n (.answered o), .move n .go])).callers[n]? =
      some (.ended (.error (.upload u))) := by
  intro h
  obtain ⟨hreturns, j, x, b, hp⟩ := Sample.interruption_callers
  have hf : Upload.finish x b (.error (.runtime "odd")) = .error (.ofFailure (.runtime "odd")) := rfl
  obtain ⟨u, hu⟩ := h Sample.interruption 1 1 j x b _ _ hreturns hp hf
  have hodd := (upload_fails hp hf [.move 1 .go]).2 (Nat.le_refl 1)
  rw [← run_cons, ← run_append] at hodd
  cases hodd.symm.trans hu

end VerdictClient.Session
