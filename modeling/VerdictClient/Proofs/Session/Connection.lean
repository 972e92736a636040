import VerdictClient.Proofs.Session.Status
import VerdictClient.Proofs.Transport

namespace VerdictClient

namespace Session

variable {τ : Type}

def Phase.Touches : Phase τ → Prop
  | .opening _ | .greet _ _ | .send _ _ | .leave _ | .disconnect _ true => True
  | _ => False

/-- The caller stands where it can only come to when the session has its connection. -/
def Phase.IsAttached : Phase τ → Prop
  | .connect _ | .opening _ | .install _ | .leave _ | .ask _ | .close | .failAll _ false
  | .disconnect _ false | .join _ | .ended _ => False
  | _ => True

def Phase.IsOpening : Phase τ → Prop
  | .opening _ | .install _ => True
  | _ => False

variable {s s' : Session τ} {n m : Nat} {p p' : Phase τ} {sig : Signal} {e : Event τ}

theorem Phase.IsOpening.isAttempt (h : p.IsOpening) : p.IsAttempt := by
  cases p with
  | opening | install => exact .inl trivial
  | _ => exact h.elim

theorem Phase.Touches.cases (h : p.Touches) : p.IsAttached ∨ p.IsOpening ∨ ∃ r, p = .leave r := by
  cases p with
  | opening => exact .inr (.inl trivial)
  | leave r => exact .inr (.inr ⟨r, rfl⟩)
  | greet | send => exact .inl trivial
  | disconnect b₁ b₂ =>
    cases b₂ with
    | true => exact .inl trivial
    | false => exact h.elim
  | _ => exact h.elim

theorem closedBy_frame (s : Session τ) (r : Error) :
    (s.closedBy r).connection = s.connection ∧ (s.closedBy r).installed = s.installed ∧
      (s.closedBy r).reader = s.reader := by
  obtain ⟨st, h⟩ := s.closedBy_eq r
  rw [h]
  exact ⟨rfl, rfl, rfl⟩

theorem failConnecting_frame (s : Session τ) :
    s.failConnecting.connection = s.connection ∧ s.failConnecting.installed = s.installed ∧
      s.failConnecting.reader = s.reader := by
  obtain ⟨st, h⟩ := s.failConnecting_eq
  rw [h]
  exact ⟨rfl, rfl, rfl⟩

theorem installed_of_prepare {a : Ask τ} {j : Job τ} (h : (s.prepare a).1 = .ok j) :
    s.installed = true := by
  by_contra hi
  have ht : s.transport? = none := by simp [transport?, hi]
  have hu : ∃ r, s.authorization = .error r := by
    unfold authorization
    cases s.state <;> simp [ht]
  obtain ⟨r, hr⟩ := hu
  unfold prepare at h
  split at h
  · cases h
  · rw [hr] at h
    cases h

variable [Clock τ]

theorem Advance.frame (h : Advance n s p sig p' s') :
    (s'.connection = s.connection ∨ p.Touches) ∧ s'.installed = s.installed ∧
      s'.reader = s.reader := by
  cases h with
  | breakOff _ hw | breakClosed _ hw | written _ hw =>
    obtain ⟨t, rfl⟩ := write_eq hw
    exact ⟨.inr trivial, rfl, rfl⟩
  | _ => exact ⟨.inl rfl, rfl, rfl⟩

theorem Manage.connection (h : Manage s p sig p' s') : s'.connection = s.connection ∨ p.Touches := by
  cases h with
  | opened | failOpening | leave | greet | failGreeting => exact .inr trivial
  | dropped | cancelled => exact .inl (s.closedBy_frame _).1
  | refused | refuseEntry => exact .inl s.failConnecting_frame.1
  | giveUp => exact .inl (s.withReceiver s.receiver.cancelAuth).failConnecting_frame.1
  | @disconnect b₁ b₂ =>
    cases b₂ with
    | true => exact .inr trivial
    | false => exact .inl rfl
  | @join b _ => cases b <;> exact .inl rfl
  | _ => exact .inl rfl

theorem Manage.installed (h : Manage s p sig p' s') : s'.installed = s.installed ∨
    s.state ≠ .closed ∧ s'.installed = true ∧ ∃ x, p = .install x ∧ p' = .announce x := by
  cases h with
  | install hs => exact .inr ⟨hs, rfl, _, rfl, rfl⟩
  | failOpening | dropped | cancelled => exact .inl (s.closedBy_frame _).2.1
  | failGreeting _ hw =>
    obtain ⟨t, rfl⟩ := write_eq hw
    exact .inl (closedBy_frame { s with connection := t } _).2.1
  | greet _ hw =>
    obtain ⟨t, rfl⟩ := write_eq hw
    exact .inl rfl
  | refused | refuseEntry => exact .inl s.failConnecting_frame.2.1
  | giveUp => exact .inl (s.withReceiver s.receiver.cancelAuth).failConnecting_frame.2.1
  | disconnect | join => split <;> exact .inl rfl
  | _ => exact .inl rfl

theorem Manage.reader (h : Manage s p sig p' s') : s'.reader = s.reader ∨
    (∃ x, p = .announce x) ∧ s'.reader = .reading ∧ s'.receiver.waiters ≠ [] := by
  cases h with
  | announce => exact .inr ⟨⟨_, rfl⟩, rfl, by simp [withReceiver, Receiver.expectAuth]⟩
  | failOpening | dropped | cancelled => exact .inl (s.closedBy_frame _).2.2
  | failGreeting _ hw =>
    obtain ⟨t, rfl⟩ := write_eq hw
    exact .inl (closedBy_frame { s with connection := t } _).2.2
  | greet _ hw =>
    obtain ⟨t, rfl⟩ := write_eq hw
    exact .inl rfl
  | refused | refuseEntry => exact .inl s.failConnecting_frame.2.2
  | giveUp => exact .inl (s.withReceiver s.receiver.cancelAuth).failConnecting_frame.2.2
  | disconnect | join => split <;> exact .inl rfl
  | _ => exact .inl rfl

/-- The connection is changed by callers that touch it, and by the reader when reading fails. -/
theorem connection_step (s : Session τ) (e : Event τ) :
    (s.step e).connection = s.connection ∨
      (∃ n p sig, e = .move n sig ∧ s.callers[n]? = some p ∧ p.Touches) ∨
      ∃ f, e = .lost f ∧ s.reader = .reading := by
  cases e with
  | call i => exact .inl rfl
  | move n sig =>
    cases hp : s.callers[n]? with
    | none => rw [step_move_of_none hp]; exact .inl rfl
    | some p =>
      obtain h | ⟨p', s', hgo, h, -⟩ := move_cases hp sig <;> rw [h]
      · exact .inl rfl
      · have ht : s'.connection = s.connection ∨ p.Touches :=
          hgo.elim (fun h ↦ h.frame.1) Manage.connection
        exact ht.imp id fun ht ↦ .inl ⟨n, p, sig, rfl, hp, ht⟩
  | frame f =>
    simp only [step, frameStep]
    split
    · split <;> exact .inl rfl
    · exact .inl rfl
  | lost f =>
    simp only [step, lostStep]
    split
    · next hr _ => exact .inr (.inr ⟨f, rfl, hr⟩)
    · exact .inl rfl
  | reader =>
    simp only [step, readerStep, reportLoss]
    split <;> first | exact .inl rfl | (split <;> exact .inl rfl)
  | clock t =>
    simp only [step]
    split <;> exact .inl rfl

theorem installed_step (s : Session τ) (e : Event τ) : (s.step e).installed = s.installed ∨
    s.state ≠ .closed ∧ (s.step e).installed = true ∧ ∃ n sig x, e = .move n sig ∧
      s.callers[n]? = some (.install x) ∧ (s.step e).callers[n]? = some (.announce x) := by
  by_cases hm : ∃ n sig, e = .move n sig
  · obtain ⟨n, sig, rfl⟩ := hm
    cases hp : s.callers[n]? with
    | none => rw [step_move_of_none hp]; exact .inl rfl
    | some p =>
      obtain h | ⟨p', s', hadv | hman, h, hp'⟩ := move_cases hp sig
      · rw [h]; exact .inl rfl
      · rw [h]; exact .inl hadv.frame.2.1
      · obtain hi | ⟨hs, hi, x, rfl, rfl⟩ := hman.installed
        · rw [h]; exact .inl hi
        · exact .inr ⟨hs, by rw [h]; exact hi, n, sig, x, rfl, hp, hp'⟩
  · obtain ⟨st, t, r, rd, cs, now, ls, h⟩ := step_eq_with (s := s) fun n sig he ↦ hm ⟨n, sig, he⟩
    rw [h]
    exact .inl rfl

theorem installed_stays (h : s.installed = true) (e : Event τ) : (s.step e).installed = true := by
  obtain hi | ⟨-, hi, -⟩ := s.installed_step e
  · rw [hi, h]
  · exact hi

def report? (s : Session τ) : Event τ → Option ClosedCause
  | .reader =>
    match s.reader with
    | .report cause => some cause
    | _ => none
  | _ => none

inductive ReaderTurn (s : Session τ) (e : Event τ) (s' : Session τ) : Prop
  | stay (hr : s.report? e = none) (h : s'.reader = s.reader)
  | begin {n sig x} (hr : s.report? e = none) (he : e = .move n sig)
      (hp : s.callers[n]? = some (.announce x)) (h : s'.reader = .reading)
      (hw : s'.receiver.waiters ≠ [])
  | stop {x} (hr : s.report? e = none) (hs : s.reader = .reading) (h : s'.reader = .failWaiter x)
  | failWaiter {x c} (hr : s.report? e = none) (hs : s.reader = .failWaiter x)
      (h : s'.reader = .failRequests c) (hx : s'.receiver.expecting = none)
  | failRequests {c} (he : e = .reader) (hs : s.reader = .failRequests c) (h : s'.reader = .report c)
  | report {c} (he : e = .reader) (hs : s.reader = .report c) (h : s'.reader = .ended)

theorem reader_turn (s : Session τ) (e : Event τ) : ReaderTurn s e (s.step e) := by
  cases e with
  | call i => exact .stay rfl rfl
  | move n sig =>
    cases hp : s.callers[n]? with
    | none => exact .stay rfl (by rw [step_move_of_none hp])
    | some p =>
      obtain he | ⟨p', s', hadv | hman, he, -⟩ := move_cases hp sig
      · exact .stay rfl (by rw [he])
      · exact .stay rfl (by rw [he]; exact hadv.frame.2.2)
      · obtain hr | ⟨⟨x, rfl⟩, hr, hw⟩ := hman.reader
        · exact .stay rfl (by rw [he]; exact hr)
        · exact .begin rfl rfl hp (by rw [he]; exact hr) (by rw [he]; exact hw)
  | frame f =>
    simp only [step, frameStep]
    split
    · next hr =>
      split
      · exact .stay rfl rfl
      · exact .stop rfl hr rfl
    · exact .stay rfl rfl
  | lost f =>
    simp only [step, lostStep]
    split
    · next hr _ => exact .stop rfl hr rfl
    · exact .stay rfl rfl
  | reader =>
    cases hr : s.reader with
    | failWaiter x =>
      have hn : s.report? .reader = none := by simp only [report?, hr]
      refine .failWaiter hn hr (by simp only [step, readerStep, hr]; rfl) ?_
      simp only [step, readerStep, hr]
      exact Receiver.expecting_settleWaiter _ _
    | failRequests c => exact .failRequests rfl hr (by simp only [step, readerStep, hr])
    | report c => exact .report rfl hr (by simp only [step, readerStep, hr])
    | idle | reading | ended =>
      exact .stay (by simp only [report?, hr]) (by simp only [step, readerStep, hr])
  | clock t =>
    simp only [step]
    split <;> exact .stay rfl rfl

theorem Advance.isAttached (h : Advance n s p sig p' s') : p.IsAttached ∨ s'.installed = true ∨
    ¬p'.IsAttached := by
  cases h with
  | refuse => exact .inr (.inr id)
  | prepare hj =>
    have hi : s.installed = true := installed_of_prepare hj
    exact .inr (.inl hi)
  | _ => exact .inl trivial

theorem Manage.isAttached (h : Manage s p sig p' s') : p.IsAttached ∨ s'.installed = true ∨
    ¬p'.IsAttached := by
  cases h with
  | stay => exact Classical.or_iff_not_imp_left.2 .inr
  | install => exact .inr (.inl rfl)
  | close =>
    cases hi : s.installed with
    | true => exact .inr (.inl rfl)
    | false => exact .inr (.inr id)
  | @failAll b₁ b₂ =>
    cases b₂ with
    | true => exact .inl trivial
    | false => exact .inr (.inr id)
  | connect | connectAgain | opened | failOpening | installLate | leave | disconnect | join =>
    exact .inr (.inr id)
  | _ => exact .inl trivial

theorem Manage.isOpening (h : Manage s p sig p' s') (ho : p'.IsOpening) :
    p.IsOpening ∨ s.state = .disconnected := by
  cases h with
  | stay => exact .inl ho
  | connect hs => exact .inr hs
  | opened => exact .inl trivial
  | _ => exact ho.elim

/-- Callers and the reader use the connection only when it is the one of the session, and then nobody
opens another one. -/
structure Attached (s : Session τ) : Prop where
  needed : ∀ {n : Nat} {p : Phase τ}, s.callers[n]? = some p → p.IsAttached → s.installed = true
  reading : s.reader ≠ .idle → s.installed = true
  alone : s.installed = true → s.state ≠ .disconnected ∧
    ∀ (n : Nat) (p : Phase τ), s.callers[n]? = some p → ¬p.IsOpening

theorem Attached.needed_step (h : Attached s) (hp' : (s.step e).callers[n]? = some p')
    (ha : p'.IsAttached) : (s.step e).installed = true := by
  obtain ⟨hp, -⟩ | ⟨p, sig, rfl, hp, -⟩ | ⟨i, -, -, rfl⟩ := caller_step hp'
  · exact installed_stays (h.needed hp ha) e
  · obtain he | ⟨q, s', hgo, he, hq⟩ := move_cases hp sig
    · rw [he] at hp' ⊢
      exact h.needed hp' ha
    · obtain rfl : q = p' := Option.some_inj.1 (hq.symm.trans hp')
      obtain hpa | hi | hna : p.IsAttached ∨ s'.installed = true ∨ ¬q.IsAttached :=
        hgo.elim Advance.isAttached Manage.isAttached
      · exact installed_stays (h.needed hp hpa) _
      · rw [he]; exact hi
      · exact absurd ha hna
  · cases i <;> exact ha.elim

theorem Attached.reading_step (h : Attached s) (hr : (s.step e).reader ≠ .idle) :
    (s.step e).installed = true := by
  by_cases hidle : s.reader = .idle
  · cases s.reader_turn e with
    | stay _ he => exact absurd (he.trans hidle) hr
    | begin _ _ hp => exact installed_stays (h.needed hp trivial) e
    | stop _ hs | failWaiter _ hs | failRequests _ hs | report _ hs => cases hidle.symm.trans hs
  · exact installed_stays (h.reading hidle) e

variable {settings : Settings τ} {files : FileSystem} {es : List (Event τ)}

theorem Attached.alone_step (h : Attached s) (hi : s.installed = true) (e : Event τ) :
    (s.step e).state ≠ .disconnected ∧
      ∀ (n : Nat) (p : Phase τ), (s.step e).callers[n]? = some p → ¬p.IsOpening := by
  obtain ⟨hs, halone⟩ := h.alone hi
  refine ⟨ne_disconnected_step hs e, fun n p' hp' ho ↦ ?_⟩
  obtain ⟨hp, -⟩ | ⟨p, sig, rfl, hp, -⟩ | ⟨i, -, -, rfl⟩ := caller_step hp'
  · exact halone n p' hp ho
  · obtain he | ⟨q, s', hadv | hman, -, hq⟩ := move_cases hp sig
    · exact halone n p' (he ▸ hp') ho
    all_goals obtain rfl : q = p' := Option.some_inj.1 (hq.symm.trans hp')
    · obtain ha | ⟨r, rfl⟩ := hadv.isAsk_or_ended
      · exact absurd ha ho.isAttempt.not_isAsk
      · exact ho
    · obtain hpo | hd := hman.isOpening ho
      · exact halone n p hp hpo
      · exact hs hd
  · cases i <;> exact ho.elim

theorem attached_run (settings : Settings τ) (files : FileSystem) (es : List (Event τ)) :
    Attached ((start settings files).run es) := by
  induction es using List.reverseRecOn with
  | nil =>
    refine ⟨fun hp ↦ by simp [start] at hp, fun hr ↦ absurd rfl hr, fun hi ↦ ?_⟩
    simp [start] at hi
  | append_singleton es e ih =>
    have hrun := run_concat (start settings files) es e
    rw [hrun]
    refine ⟨ih.needed_step, ih.reading_step, fun hi ↦ ?_⟩
    obtain hsame | ⟨-, -, m, sig, x, -, -, hm⟩ :=
      installed_step ((start settings files).run es) e
    · rw [hsame] at hi
      exact ih.alone_step hi e
    · -- The caller that installs the connection is the only one on its way.
      have hx : (Phase.announce x : Phase τ).IsAttempt := .inl trivial
      have ha : Occurs (Attempts m) (start settings files) (es ++ [e]) :=
        attempts_of_isAttempt (hrun ▸ hm) hx
      refine ⟨hrun ▸ ne_disconnected_of_attempts ha, fun n p' hp' ho ↦ ?_⟩
      obtain rfl : n = m := isAttempt_unique (hrun ▸ hp') ho.isAttempt (hrun ▸ hm) hx
      obtain rfl : p' = .announce x := Option.some_inj.1 (hp'.symm.trans hm)
      exact ho

end Session

end VerdictClient
