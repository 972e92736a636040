import VerdictClient.Proofs.Session.Lifecycle
import VerdictClient.Proofs.Session.Presenting
import VerdictClient.Proofs.Session.WellFormed

namespace VerdictClient.Session

variable {τ : Type}

def Grants (f : Frame) (id : Text) : Prop :=
  ∃ a, AuthResponse.decode f = .ok a ∧ a.success = true ∧ a.sessionId = some id ∧ id ≠ []

inductive Refuses (f : Frame) : Text → Prop
  | undecodable {c} (h : AuthResponse.decode f = .error (.undecodable c)) : Refuses f c.message
  | worded {a t} (h : AuthResponse.decode f = .ok a) (ht : a.text = some t) (hne : t ≠ []) :
      Refuses f t
  | wordless {a} (h : AuthResponse.decode f = .ok a) (ht : ∀ t, a.text = some t → t = []) :
      Refuses f "Authentication failed"

variable {s s' : Session τ} {n m : Nat} {p p' : Phase τ} {sig : Signal} {e : Event τ}
variable {f : Frame} {a : AuthResponse}

theorem grantedId?_eq_some_iff {id : Text} :
    grantedId? a = some id ↔ a.success = true ∧ a.sessionId = some id ∧ id ≠ [] := by
  unfold grantedId?
  split
  · next h => simp [h, Option.filter_eq_some_iff]
  · next h => simp [h]

theorem refuses_refusal (h : AuthResponse.decode f = .ok a) : Refuses f (refusal a).message := by
  unfold refusal
  cases ht : a.text with
  | none => exact .wordless h (by simp [ht])
  | some t =>
    cases t with
    | nil => exact .wordless h (by simp [ht])
    | cons c t => exact .worded h ht (List.cons_ne_nil c t)

def Phase.IsClosing : Phase τ → Prop
  | .leave _ | .failAll _ _ | .disconnect _ _ | .join _ => True
  | _ => False

theorem closes_of_write {t : Text} {o : Option Failure} {r : Except Error Unit}
    (h : s.write t o = (r, s')) :
    s'.connection.map Transport.closes = s.connection.map Transport.closes := by
  unfold write at h
  split at h
  · rw [(Prod.mk.inj h).2]
  · next u hu =>
    have hsend : (u.send t o).2.closes = u.closes := by
      unfold Transport.send Transport.write Transport.fail
      split
      · rfl
      · split
        · rfl
        · split <;> rfl
    obtain ⟨-, rfl⟩ := Prod.mk.inj h
    simp only [hu, Option.map_some, hsend]

variable [Clock τ]

def Breaks (s : Session τ) (e : Event τ) : Prop :=
  s.reader = .reading ∧ ∃ f, e = .lost f

theorem Manage.closes (h : Manage s p sig p' s') :
    s'.connection.map Transport.closes = s.connection.map Transport.closes ∨
      s'.connection.map Transport.closes = some 0 ∨ p.IsClosing := by
  cases h with
  | opened ht => exact .inr (.inl (by rw [opened_of_openResult ht]; rfl))
  | failOpening | dropped | cancelled => exact .inl (by rw [(s.closedBy_frame _).1])
  | failGreeting _ hw => exact .inl (by rw [(closedBy_frame _ _).1, closes_of_write hw])
  | greet _ hw => exact .inl (closes_of_write hw)
  | refused | refuseEntry => exact .inl (by rw [s.failConnecting_frame.1])
  | giveUp =>
    have hc := (s.withReceiver s.receiver.cancelAuth).failConnecting_frame.1
    exact .inl (by rw [hc]; rfl)
  | leave | failAll | disconnect | join => exact .inr (.inr trivial)
  | _ => exact .inl rfl

theorem Advance.closes (h : Advance n s p sig p' s') :
    s'.connection.map Transport.closes = s.connection.map Transport.closes := by
  cases h with
  | breakOff _ hw | breakClosed _ hw | written _ hw =>
    have hc := closes_of_write hw
    exact hc
  | _ => rfl

theorem closes_step (s : Session τ) (e : Event τ) :
    (s.step e).connection.map Transport.closes = s.connection.map Transport.closes ∨
      (s.step e).connection.map Transport.closes = some 0 ∨
      ∃ (n : Nat) (p : Phase τ), s.callers[n]? = some p ∧ p.IsClosing := by
  obtain h | ⟨n, p, sig, rfl, hp, -⟩ | ⟨f, rfl, hr⟩ := s.connection_step e
  · exact .inl (by rw [h])
  · obtain h | ⟨p', s', hadv | hman, h, -⟩ := move_cases hp sig <;> rw [h]
    · exact .inl rfl
    · exact .inl hadv.closes
    · exact hman.closes.imp_right (Or.imp_right fun hc ↦ ⟨n, p, hp, hc⟩)
  · left
    simp only [step, lostStep, hr]
    cases ht : s.connection with
    | none => exact congrArg (Option.map Transport.closes) ht
    | some t =>
      simp only [Transport.fail]
      split <;> rfl

variable {settings : Settings τ} {files : FileSystem} {es : List (Event τ)}

theorem closes_of_isClosing (hp : ((start settings files).run es).callers[n]? = some p)
    (h : p.IsClosing) : Occurs Closes (start settings files) es := by
  induction es using List.reverseRecOn generalizing p with
  | nil => simp [start] at hp
  | append_singleton es e ih =>
    rw [run_concat] at hp
    have hask : ¬p.IsAsk := by
      intro ha
      cases p <;> first | exact ha | exact h
    have hend (r : Except Error (Option Classification)) : p ≠ .ended r := by
      rintro rfl
      exact h
    obtain hp | ⟨q, sig, s', rfl, hq, hman⟩ | ⟨i, rfl⟩ := manage_step hask hend hp
    · exact (ih hp h).concat e
    · have hlate (hc : q.IsConnecting) (hs : ((start settings files).run es).state ≠ .connecting) :
          Occurs Closes (start settings files) es := by
        obtain ⟨q', hq', hst⟩ := attempted_run (attempts_of_isAttempt hq (.inl hc))
        obtain rfl := Option.some_inj.1 (hq'.symm.trans hq)
        exact ((hst.state_of_isConnecting hc).resolve_left hs).2
      cases hman with
      | stay => exact (ih hq h).concat _
      | installLate hs => exact (hlate trivial (by simp [hs])).concat _
      | enterLate _ hs => exact (hlate trivial hs).concat _
      | close => exact occurs_concat.2 (.inr ⟨n, rfl, hq⟩)
      | failAll | disconnect => exact (ih hq trivial).concat _
      | _ => exact h.elim
    · cases i <;> exact h.elim

theorem closes_run (hc : ¬Occurs Closes (start settings files) es) {t : Transport}
    (ht : ((start settings files).run es).connection = some t) : t.closes = 0 := by
  suffices h : ∀ k, ((start settings files).run es).connection.map Transport.closes = some k →
      k = 0 from h _ (by rw [ht]; rfl)
  clear ht
  induction es using List.reverseRecOn with
  | nil =>
    intro k hk
    cases hk
  | append_singleton es e ih =>
    intro k hk
    rw [run_concat] at hk
    have hc' : ¬Occurs Closes (start settings files) es := fun h ↦ hc (h.concat e)
    obtain h | h | ⟨m, p, hp, hcl⟩ := closes_step ((start settings files).run es) e
    · exact ih hc' k (h.symm.trans hk)
    · exact (Option.some_inj.1 (h.symm.trans hk)).symm
    · exact absurd (closes_of_isClosing hp hcl) hc'

omit [Clock τ] in
theorem sessionId_of_authorization {id : Text} (h : s.authorization = .ok id) :
    s.sessionId = some id := by
  unfold authorization at h
  split at h
  case h_5 =>
    split at h
    · cases h
    · split at h
      · cases h
      · next hid => rw [hid, Except.ok.inj h]
  all_goals cases h

theorem sessionId_of_ofFields {k : OutboundKind} {id : Text} {fs : Fields} {r : VerdictRequest}
    (h : VerdictRequest.ofFields k (("session_id", .text id) :: fs) = .ok r) : r.sessionId = id := by
  unfold VerdictRequest.ofFields at h
  split at h
  · next hid _ _ _ _ =>
    cases h
    cases hid
    rfl
  · cases h

omit [Clock τ] in
theorem sessionId_of_prepare {a : Ask τ} {j : Job τ} (h : (s.prepare a).1 = .ok j) :
    s.sessionId = some j.request.sessionId := by
  unfold prepare at h
  split at h
  · cases h
  split at h
  · cases h
  next id hauth =>
  split at h
  · cases h
  simp only at h
  split at h
  · cases h
  next r hr =>
  cases h
  rw [sessionId_of_authorization hauth, sessionId_of_ofFields hr]

/-- Nobody gets further with a question before the session is an authenticated one. -/
theorem enters_of_isAsk (hp : ((start settings files).run es).callers[n]? = some p) (h : p.IsAsk)
    (hne : ∀ a, p ≠ .ask a) : Occurs Enters (start settings files) es := by
  induction es using List.reverseRecOn generalizing p with
  | nil => simp [start] at hp
  | append_singleton es e ih =>
    rw [run_concat] at hp
    obtain ⟨hp, -⟩ | ⟨q, sig, rfl, hqa, -, hq, hadv⟩ | ⟨a, -, -, rfl⟩ := ask_step h hp
    · exact (ih hp h hne).concat e
    · by_cases hq' : ∃ a, q = .ask a
      · obtain ⟨a, rfl⟩ := hq'
        generalize (((start settings files).run es).moved n (.ask a) sig).2 = s' at hadv
        cases hadv with
        | refuse => exact h.elim
        | prepare hj => exact (entered_of_sessionId (sessionId_of_prepare hj)).concat _
      · exact (ih hq hqa fun a ha ↦ hq' ⟨a, ha⟩).concat _
    · exact absurd rfl (hne a)

/-- As long as nobody can ask and nobody closes the session, the connection of a caller that has
presented its token stays open unless reading from it fails. -/
theorem open_run (h : Occurs (Presents n) (start settings files) es)
    (hc : ¬Occurs Closes (start settings files) es) (he : ¬Occurs Enters (start settings files) es) :
    ∃ t, ((start settings files).run es).connection = some t ∧
      (t.closed = true → Occurs Breaks (start settings files) es) := by
  induction es using List.reverseRecOn with
  | nil => exact absurd h not_occurs_nil
  | append_singleton es e ih =>
    rw [run_concat]
    obtain h | h := occurs_concat.1 h
    · have hc' : ¬Occurs Closes (start settings files) es := fun h ↦ hc (h.concat e)
      have he' : ¬Occurs Enters (start settings files) es := fun h ↦ he (h.concat e)
      obtain ⟨t, ht, hopen⟩ := ih h hc' he'
      obtain ⟨hat, q, hq, hf⟩ := follows_run h
      obtain hsame | ⟨m, p, sig, rfl, hp, htouch⟩ | ⟨x, rfl, hr⟩ :=
        connection_step ((start settings files).run es) e
      · exact ⟨t, hsame.trans ht, fun hcl ↦ (hopen hcl).concat e⟩
      · have hgone (ha : p.IsAttempt) : p = q := by
          obtain rfl := attempts_unique (attempts_of_isAttempt hp ha) hat
          exact Option.some_inj.1 (hp.symm.trans hq)
        cases p with
        | opening | greet => exact (hgone (.inl trivial) ▸ hf).elim
        | send => exact absurd (enters_of_isAsk hp trivial (by simp)) he'
        | leave | disconnect => exact absurd (closes_of_isClosing hp trivial) hc'
        | _ => exact htouch.elim
      · simp only [step, lostStep, hr, ht]
        exact ⟨_, rfl, fun _ ↦ occurs_concat.2 (.inr ⟨hr, x, rfl⟩)⟩
    · obtain ⟨x, w, o, k, t, rfl, hp, hopen, hm⟩ := h.moved
      rw [step_move hp, hm]
      exact ⟨t, rfl, fun hcl ↦ by cases hopen.symm.trans hcl⟩

/-- Caller `n` has returned from its attempt and the session is authenticated under an id. -/
structure Admitted (n : Nat) (id : Text) (s : Session τ) : Prop where
  caller : s.callers[n]? = some (.ended (.ok none))
  state : s.state = .authenticated
  sessionId : s.sessionId = some id

/-- Caller `n` has been told why frame `f` grants nothing; the session has failed without an id, and its
connection is open unless reading from it has failed. -/
structure Rejected (n : Nat) (f : Frame) (s : Session τ) (es : List (Event τ)) : Prop where
  caller : ∃ c, (s.run es).callers[n]? = some (.ended (.error (.authentication c))) ∧
    Refuses f c.message
  state : (s.run es).state = .failed
  sessionId : (s.run es).sessionId = none
  connection : ∃ t, (s.run es).connection = some t ∧ t.closes = 0 ∧
    (t.closed = true → Occurs Breaks s es)

theorem enters_of_loses (h : Occurs Loses (start settings files) (es ++ [e])) :
    Occurs Enters (start settings files) es := by
  obtain ⟨es₁, e', es₂, rfl, -, ha, -⟩ | ⟨-, ha, -⟩ := occurs_concat.1 h
  · exact (enters_of_authenticated ha).append _
  · exact enters_of_authenticated ha

theorem yields_of_isFirst {o : Future AuthResponse} {r : Except Error (Option Classification)}
    (hp : Occurs (Presents n) (start settings files) es) (h : IsFirst f (start settings files) es)
    (hd : Receiver.handshakeOutcome f = .ok o) (hc : ¬Occurs Closes (start settings files) es)
    (hb : ¬Occurs (Balks n) (start settings files) es)
    (hr : ((start settings files).run es).callers[n]? = some (.ended r)) :
    Yields ((start settings files).run es) (Occurs Loses (start settings files) es) o r := by
  obtain ⟨-, p, hp, hf⟩ := follows_run hp
  obtain rfl := Option.some_inj.1 (hp.symm.trans hr)
  obtain hcl | ht | hbalk | ⟨o', hw, -, hy⟩ := hf
  · exact absurd hcl hc
  · exact absurd ht (not_timesOut_of_isFirst h hd)
  · exact absurd hbalk hb
  · have hsame := hw.symm.trans (waiters_of_isFirst h hd)
    exact (List.cons.inj hsame).1 ▸ hy

theorem rejected_of_failed {c : AuthenticationCause}
    (hp : Occurs (Presents n) (start settings files) es)
    (hc : ¬Occurs Closes (start settings files) es)
    (hr : ((start settings files).run es).callers[n]? = some (.ended (.error (.authentication c))))
    (hs : ((start settings files).run es).state = .failed) (ht : Refuses f c.message) :
    Rejected n f (start settings files) es := by
  have hne : ¬Occurs Enters (start settings files) es := by
    intro he
    obtain ⟨m, hm, hok⟩ := returned_of_enters he
    obtain rfl := attempts_unique hm (follows_run hp).1
    cases hok.symm.trans hr
  obtain ⟨t, hconn, hopen⟩ := open_run hp hc hne
  exact ⟨⟨c, hr, ht⟩, hs, ((entered_run settings files es).1 hne).1, t, hconn, closes_run hc hconn,
    hopen⟩

theorem Grants.unique {i j : Text} (hi : Grants f i) (hj : Grants f j) : i = j := by
  obtain ⟨a, ha, -, hai, -⟩ := hi
  obtain ⟨b, hb, -, hbj, -⟩ := hj
  obtain rfl := Except.ok.inj (ha.symm.trans hb)
  exact Option.some_inj.1 (hai.symm.trans hbj)

/-- An attempt that has ended after the first frame was admitted with the id that the frame grants, or
it was rejected. -/
theorem admitted_or_rejected {r : Except Error (Option Classification)}
    (hf : ∀ c, AuthResponse.decode f ≠ .error (.tooDeep c))
    (hp : Occurs (Presents n) (start settings files) es) (h : IsFirst f (start settings files) es)
    (hc : ¬Occurs Closes (start settings files) es)
    (hb : ¬Occurs (Balks n) (start settings files) es)
    (hr : ((start settings files).run es).callers[n]? = some (.ended r)) :
    (∀ id, Grants f id → ¬Occurs Loses (start settings files) es →
        Admitted n id ((start settings files).run es)) ∧
      ((∀ id, ¬Grants f id) → Rejected n f (start settings files) es) := by
  cases hd : AuthResponse.decode f with
  | ok a =>
    have ho : Receiver.handshakeOutcome f = .ok (.done a) := by
      simp only [Receiver.handshakeOutcome, hd]
    cases yields_of_isFirst hp h ho hc hb hr with
    | @granted _ i hg hi hs =>
      have hgrants : Grants f i := ⟨a, hd, grantedId?_eq_some_iff.1 hg⟩
      refine ⟨fun id hid hl ↦ ⟨hr, hs.resolve_right hl, ?_⟩, fun hne ↦ absurd hgrants (hne i)⟩
      rw [hi, hgrants.unique hid]
    | refused hg hs =>
      refine ⟨fun id ⟨b, hb, hgrants⟩ ↦ ?_, fun _ ↦ rejected_of_failed hp hc hr hs (refuses_refusal hd)⟩
      obtain rfl := Except.ok.inj (hb.symm.trans hd)
      cases (grantedId?_eq_some_iff.2 hgrants).symm.trans hg
  | error x =>
    cases x with
    | tooDeep c => exact absurd hd (hf c)
    | undecodable c =>
      have ho : Receiver.handshakeOutcome f = .ok (.failed (.authentication (.undecodable c))) := by
        simp only [Receiver.handshakeOutcome, hd]
      refine ⟨fun id ⟨b, hb, _⟩ ↦ (by cases hb.symm.trans hd), fun _ ↦ ?_⟩
      cases yields_of_isFirst hp h ho hc hb hr with
      | undecodable hs => exact rejected_of_failed hp hc hr hs (.undecodable hd)
      | dropped hx => exact absurd rfl (hx _)

theorem not_loses_of_not_ended (hat : Occurs (Attempts n) (start settings files) es)
    (h : ∀ r, ((start settings files).run es).callers[n]? ≠ some (.ended r)) (e : Event τ) :
    ¬Occurs Loses (start settings files) (es ++ [e]) := by
  intro hl
  obtain ⟨m, hm, hok⟩ := returned_of_enters (enters_of_loses hl)
  obtain rfl := attempts_unique hm hat
  exact h _ hok

/-- Caller `n` has been told why nobody can wait as long as the session would, and the session stays on
its way. -/
structure Stranded (n : Nat) (x : Error) (s : Session τ) (es : List (Event τ)) : Prop where
  caller : (s.run es).callers[n]? = some (.ended (.error x))
  state : ¬Occurs Closes s es → (s.run es).state = .connecting
  sessionId : (s.run es).sessionId = none

theorem patience_run (s : Session τ) (es : List (Event τ)) : (s.run es).patience = s.patience := by
  induction es using List.reverseRecOn with
  | nil => rfl
  | append_singleton es e ih =>
    rw [run_concat, ← ih]
    simp only [patience, (fixed_step (s.run es) e).1]

theorem Balks.ended (h : Balks n s e) : ∃ x, s.patience = .error x ∧
    (s.step e).callers[n]? = some (.ended (.error x)) := by
  obtain ⟨w, k, x, rfl, hp, hw, hx⟩ := h
  refine ⟨x, hx, ?_⟩
  rw [caller_move hp]
  simp only [moved, hw, authSettled, hx, Option.getD_some]

theorem stranded_of_balks (h : Occurs (Balks n) (start settings files) es) :
    ∃ x, (start settings files).patience = .error x ∧ Stranded n x (start settings files) es := by
  have habandons : Occurs (Abandons n) (start settings files) es := by
    obtain ⟨es₁, e, es₂, rfl, w, k, x, rfl, hp, hw, hx⟩ := h
    exact ⟨es₁, _, es₂, rfl, .wait hp hw hx⟩
  obtain ⟨hat, -, hstate⟩ := abandoned_run habandons
  obtain ⟨es₁, e, es₂, rfl, hb⟩ := h
  obtain ⟨x, hx, hend⟩ := hb.ended
  have hcaller := ended_run hend es₂
  rw [← run_cons, ← run_append] at hcaller
  have hpatience := hx
  rw [patience_run] at hpatience
  have hne : ¬Occurs Enters (start settings files) (es₁ ++ e :: es₂) := by
    intro he
    obtain ⟨m, hm, hok⟩ := returned_of_enters he
    obtain rfl := attempts_unique hm hat
    cases hok.symm.trans hcaller
  exact ⟨x, hpatience, hcaller, hstate, ((entered_run settings files _).1 hne).1⟩

theorem balks_of_ended {r : Except Error (Option Classification)}
    (hp : Occurs (Presents n) (start settings files) es)
    (hr : ((start settings files).run es).reader = .reading)
    (hf : ¬Occurs Reads (start settings files) es) (ht : ¬Occurs TimesOut (start settings files) es)
    (hc : ¬Occurs Closes (start settings files) es)
    (hn : ((start settings files).run es).callers[n]? = some (.ended r)) :
    Occurs (Balks n) (start settings files) es := by
  obtain ⟨-, p, hphase, hfollows⟩ := follows_run hp
  obtain rfl := Option.some_inj.1 (hphase.symm.trans hn)
  obtain hcl | hlate | hb | ⟨o, hw, ho, -⟩ := hfollows
  · exact absurd hcl hc
  · exact absurd hlate ht
  · exact hb
  · have hpending := hw.symm.trans (expecting_run hr hf ht).2
    exact absurd (List.cons.inj hpending).1 ho

theorem balks_of_isFirst {o : Future AuthResponse} (h : IsFirst f (start settings files) es)
    (hd : Receiver.handshakeOutcome f = .ok o) {fs : List (Event τ)}
    (hb : Occurs (Balks n) (start settings files) (es ++ fs)) :
    Occurs (Balks n) (start settings files) es := by
  obtain hb | ⟨fs₁, e, fs₂, rfl, hlate⟩ := occurs_append.1 hb
  · exact hb
  · have ho := (Receiver.isTold_of_handshakeOutcome hd).2
    rw [← run_append] at hlate
    exact absurd hlate (not_balks_of_waiters ho (waiters_run ho (waiters_of_isFirst h hd) fs₁) e)

/-- Who has ended after the first frame came has not ended before it, or was not ready to wait for it. -/
theorem ended_after_or_balks {r : Except Error (Option Classification)}
    (hp : Occurs (Presents n) (start settings files) es) (h : IsFirst f (start settings files) es)
    (hc : ¬Occurs Closes (start settings files) es)
    (hn : ((start settings files).run es).callers[n]? = some (.ended r)) :
    Occurs (Balks n) (start settings files) es ∨
      ∃ es₁ e es₂, es = es₁ ++ e :: es₂ ∧ Occurs (Presents n) (start settings files) es₁ ∧
        IsFirst f (start settings files) es₁ ∧
        ∀ r', ((start settings files).run es₁).callers[n]? ≠ some (.ended r') := by
  induction es using List.reverseRecOn generalizing r with
  | nil => exact absurd hp not_occurs_nil
  | append_singleton es e ih =>
    have hc' : ¬Occurs Closes (start settings files) es := fun hcl ↦ hc (hcl.concat e)
    obtain hbefore | hnow := occurs_concat.1 hp
    · obtain ⟨es₁, es₂, hes, hr, hf, ht⟩ := h
      obtain ⟨rfl, rfl⟩ | ⟨es₃, rfl⟩ := eq_of_concat_eq hes
      · rw [run_concat, callers_step_of_not_move (by simp) (by simp)] at hn
        exact .inl ((balks_of_ended hbefore hr hf ht hc' hn).concat _)
      · have h : IsFirst f (start settings files) (es₁ ++ .frame f :: es₃) :=
          ⟨es₁, es₃, rfl, hr, hf, ht⟩
        by_cases hend : ∃ r', ((start settings files).run (es₁ ++ .frame f :: es₃)).callers[n]? =
            some (.ended r')
        · obtain ⟨r', hr'⟩ := hend
          obtain hb | ⟨fs₁, e', fs₂, hfs, hlater⟩ := ih hbefore h hc' hr'
          · exact .inl (hb.concat e)
          · exact .inr ⟨fs₁, e', fs₂ ++ [e], by simp [hfs], hlater⟩
        · exact .inr ⟨_, e, [], rfl, hbefore, h, not_exists.1 hend⟩
    · -- Who presents its token now has not ended.
      obtain ⟨x, w, o, k, u, rfl, hphase, -, hm⟩ := hnow.moved
      rw [run_concat, caller_move hphase, hm] at hn
      cases hn

/-- An attempt to connect that has presented its token is decided by the first frame, unless that
nests too deep to be read. It ends after at most three steps of its own. If nobody has closed the
session by then, it is admitted under an id if and only if the frame is an answer that tells of success
and gives that id, which is not empty; in every other case it is rejected. Whatever comes later, such as
more frames, an attempt that was rejected stays so until somebody closes the session, and one that was
admitted until then or until the loss of the connection is reported.

There is one exception: if nobody can wait as long as the session would, a caller that finds no answer
when it begins to wait ends before the first frame, and the session stays on its way. -/
theorem first_frame_authenticates (settings : Settings τ) (files : FileSystem) (es : List (Event τ))
    (n : Nat) (f : Frame) (hf : ∀ c, AuthResponse.decode f ≠ .error (.tooDeep c))
    (hp : Occurs (Presents n) (start settings files) es)
    (h : IsFirst f (start settings files) es) :
    (∀ fs, 3 ≤ goes n fs →
      ∃ r, ((start settings files).run (es ++ fs)).callers[n]? = some (.ended r)) ∧
    (∀ e r, (∀ r', ((start settings files).run es).callers[n]? ≠ some (.ended r')) →
      ((start settings files).run (es ++ [e])).callers[n]? = some (.ended r) →
      ¬Occurs Closes (start settings files) (es ++ [e]) →
      (∀ id, Admitted n id ((start settings files).run (es ++ [e])) ↔ Grants f id) ∧
      ((∀ id, ¬Grants f id) → Rejected n f (start settings files) (es ++ [e])) ∧
      ∀ fs, ¬Occurs Closes ((start settings files).run (es ++ [e])) fs →
        (∀ id, Grants f id → ¬Occurs Loses ((start settings files).run (es ++ [e])) fs →
          Admitted n id ((start settings files).run (es ++ [e] ++ fs))) ∧
        ((∀ id, ¬Grants f id) → Rejected n f (start settings files) (es ++ [e] ++ fs))) ∧
    (∀ r, ((start settings files).run es).callers[n]? = some (.ended r) →
      ¬Occurs Closes (start settings files) es →
      Occurs (Balks n) (start settings files) es ∨
        ∃ es₁ e es₂, es = es₁ ++ e :: es₂ ∧ Occurs (Presents n) (start settings files) es₁ ∧
          IsFirst f (start settings files) es₁ ∧
          ∀ r', ((start settings files).run es₁).callers[n]? ≠ some (.ended r')) ∧
    (Occurs (Balks n) (start settings files) es → ∀ fs, ∃ x,
      (start settings files).patience = .error x ∧
        Stranded n x (start settings files) (es ++ fs)) := by
  obtain ⟨o, ho⟩ := handshakeOutcome_of_decode hf
  have hsettled := (Receiver.isTold_of_handshakeOutcome ho).2
  obtain ⟨hat, p, hphase, hfollows⟩ := follows_run hp
  refine ⟨fun fs hgo ↦ ?_, fun e r hnot hr hc ↦ ?_, fun r hr hc ↦ ended_after_or_balks hp h hc hr,
    fun hb fs ↦ stranded_of_balks (hb.append fs)⟩
  · obtain ⟨k, hk, hnears⟩ := hfollows.nearsEnd (not_timesOut_of_isFirst h ho)
    obtain ⟨k', p', hp', ⟨-, hend⟩, hk'⟩ :=
      nearsEnd_run (waiters_of_isFirst h ho) hsettled hphase hnears fs
    obtain rfl : k' = 0 := by omega
    cases hend with
    | ended r => exact ⟨r, hp'⟩
  · have hkept := not_loses_of_not_ended hat hnot e
    have hp' := hp.concat e
    have h' := h.append [e]
    have hb (gs : List (Event τ)) : ¬Occurs (Balks n) (start settings files) (es ++ gs) := by
      intro hb
      obtain ⟨x, -, hx⟩ := stranded_of_balks (balks_of_isFirst h ho hb)
      exact hnot _ hx.caller
    obtain ⟨hgranted, hreject⟩ := admitted_or_rejected hf hp' h' hc (hb [e]) hr
    refine ⟨fun id ↦ ⟨fun hadm ↦ ?_, fun hg ↦ hgranted id hg hkept⟩, hreject, fun fs hcl ↦ ?_⟩
    · by_cases hg : ∃ i, Grants f i
      · obtain ⟨i, hg⟩ := hg
        have hsame : i = id :=
          Option.some_inj.1 ((hgranted i hg hkept).sessionId.symm.trans hadm.sessionId)
        exact hsame ▸ hg
      · have hrej := hreject (not_exists.1 hg)
        cases hrej.state.symm.trans hadm.state
    · have hc' : ¬Occurs Closes (start settings files) (es ++ [e] ++ fs) :=
        fun hcl' ↦ (occurs_append.1 hcl').elim hc hcl
      have hb' := hb ([e] ++ fs)
      rw [← List.append_assoc] at hb'
      have hr' := ended_run hr fs
      rw [← run_append] at hr'
      obtain ⟨hgranted', hreject'⟩ :=
        admitted_or_rejected hf (hp'.append fs) (h'.append fs) hc' hb' hr'
      refine ⟨fun id hg hl ↦ hgranted' id hg fun hl' ↦ ?_, hreject'⟩
      exact (occurs_append.1 hl').elim hkept hl

def Sample.welcome : Frame :=
  .text "\x7b\"kind\":\"AuthResponse\",\"success\":true,\"session_id\":\"s\"\x7d"

set_option maxRecDepth 100000 in
theorem Sample.welcome_decode : AuthResponse.decode Sample.welcome = .ok ⟨true, some "s", none⟩ := by
  rfl

theorem Sample.welcome_isFirst :
    IsFirst Sample.welcome (start Sample.settings .empty) (Sample.opening.take 8) :=
  isFirst_of_forall (Sample.opening.take 6) [.move 0 .go] rfl (by simp [Sample.opening])

set_option maxRecDepth 100000 in
theorem Sample.opening_ended :
    ((start Sample.settings .empty).run Sample.opening).callers[0]? = some (.ended (.ok none)) ∧
      ((start Sample.settings .empty).run Sample.opening).state = .authenticated := by
  exact ⟨rfl, rfl⟩

set_option maxRecDepth 100000 in
theorem Sample.opening_enters : ∃ a,
    ((start Sample.settings .empty).run (Sample.opening.take 8)).callers[0]? = some (.enter a) := by
  exact ⟨_, rfl⟩

theorem first_frame_authenticates_opening :
    Admitted 0 "s" ((start Sample.settings .empty).run Sample.opening) := by
  have hf (c : Json.Container) : AuthResponse.decode Sample.welcome ≠ .error (.tooDeep c) := by
    rw [Sample.welcome_decode]
    simp
  have hp : Occurs (Presents 0) (start Sample.settings .empty) (Sample.opening.take 8) :=
    ⟨Sample.opening.take 5, .move 0 (.written none), _, rfl, _, _, _, _, rfl, rfl, rfl, rfl⟩
  obtain ⟨a, ha⟩ := Sample.opening_enters
  obtain ⟨hend, hstate⟩ := Sample.opening_ended
  have hc : ¬Occurs Closes (start Sample.settings .empty) Sample.opening := by
    intro hc
    cases (closed_of_closes hc).symm.trans hstate
  have hall := first_frame_authenticates Sample.settings .empty (Sample.opening.take 8) 0
    Sample.welcome hf hp Sample.welcome_isFirst
  obtain ⟨hgranted, -⟩ := hall.2.1 (.move 0 .go) (.ok none) (by simp [ha]) hend hc
  exact (hgranted "s").2 ⟨_, Sample.welcome_decode, rfl, rfl, by decide⟩

def Sample.impatience : List (Event Int) := opening.take 6 ++ [.move 0 .go, .frame welcome]

set_option maxRecDepth 100000 in
theorem Sample.impatience_ended : ((start Sample.boundless .empty).run Sample.impatience).callers[0]? =
      some (.ended (.error (.timeoutRange false))) ∧
    ((start Sample.boundless .empty).run Sample.impatience).state = .connecting := by
  exact ⟨rfl, rfl⟩

theorem Sample.impatience_isFirst :
    IsFirst Sample.welcome (start Sample.boundless .empty) Sample.impatience :=
  isFirst_of_forall (Sample.opening.take 6 ++ [.move 0 .go]) [] rfl (by simp [Sample.opening])

/-- An attempt to connect may end before the first frame, with no close, loss or timeout. -/
theorem not_always_admitted : ¬∀ (settings : Settings Int) (es : List (Event Int)) (n : Nat)
    (f : Frame) (id : Text) (r : Except Error (Option Classification)),
    Occurs (Presents n) (start settings .empty) es → IsFirst f (start settings .empty) es →
    ¬Occurs Closes (start settings .empty) es → ¬Occurs Loses (start settings .empty) es →
    ((start settings .empty).run es).callers[n]? = some (.ended r) → Grants f id →
    ((start settings .empty).run es).state = .authenticated := by
  intro h
  obtain ⟨hend, hstate⟩ := Sample.impatience_ended
  have hp : Occurs (Presents 0) (start Sample.boundless .empty) Sample.impatience :=
    ⟨Sample.opening.take 5, .move 0 (.written none), _, rfl, _, _, _, _, rfl, rfl, rfl, rfl⟩
  have hc : ¬Occurs Closes (start Sample.boundless .empty) Sample.impatience := by
    intro hc
    cases (closed_of_closes hc).symm.trans hstate
  have hl : ¬Occurs Loses (start Sample.boundless .empty) Sample.impatience := by
    intro hl
    have hlast : Sample.impatience =
        Sample.opening.take 6 ++ [.move 0 .go] ++ [.frame Sample.welcome] := rfl
    rw [hlast] at hl hstate
    obtain hs | hs := ((entered_run _ _ _).2 ((enters_of_loses hl).concat _)).1 <;>
      cases hs.symm.trans hstate
  have hg : Grants Sample.welcome "s" := ⟨_, Sample.welcome_decode, rfl, rfl, by decide⟩
  cases (h _ _ 0 _ _ _ hp Sample.impatience_isFirst hc hl hend hg).symm.trans hstate

end VerdictClient.Session
