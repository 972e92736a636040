import VerdictClient.Proofs.Receiver
import VerdictClient.Proofs.Session.Advance

namespace VerdictClient.Session

variable {τ : Type} [Clock τ]

/-- How a caller that does not ask goes on, with the session after it. -/
inductive Manage (s : Session τ) : Phase τ → Signal → Phase τ → Session τ → Prop
  | stay {p sig} (hp : ¬p.IsAsk) : Manage s p sig p s
  | connect {x} (h : s.state = .disconnected) :
      Manage s (.connect x) .go (.opening x) { s with
        state := .connecting
        openings := s.openings ++ [⟨s.settings.url, s.settings.keepAlive, Opening.usualPatience⟩] }
  | connectAgain {x} (h : s.state ≠ .disconnected) :
      Manage s (.connect x) .go (.ended (.error (.state (.connectAgain s.state)))) s
  | opened {x o t} (h : Transport.openResult s.settings.url o = .ok t) :
      Manage s (.opening x) (.opened o) (.install x) { s with
        connection := some t, log := s.log ++ [Transport.openedLine s.settings.url] }
  | failOpening {x o e} (h : Transport.openResult s.settings.url o = .error e) :
      Manage s (.opening x) (.opened o) (.ended (.error e)) (s.closedBy e)
  | install {x} (h : s.state ≠ .closed) :
      Manage s (.install x) .go (.announce x) { s with installed := true }
  | installLate {x} (h : s.state = .closed) :
      Manage s (.install x) .go (.leave (.closed .duringConnect)) s
  | announce {x} :
      Manage s (.announce x) .go (.greet x s.receiver.expectAuth.1)
        { s.withReceiver s.receiver.expectAuth.2 with reader := .reading }
  | ungreetable {x w o e} (h : greeting x = .error e) :
      Manage s (.greet x w) (.written o) (.ended (.error e)) s
  | failGreeting {x w o f e s'} (h : greeting x = .ok f) (hw : s.write f o = (.error e, s')) :
      Manage s (.greet x w) (.written o) (.ended (.error e)) (s'.closedBy e)
  | greet {x w o f s'} (h : greeting x = .ok f) (hw : s.write f o = (.ok (), s')) :
      Manage s (.greet x w) (.written o) (.awaitAuth w s'.authWake) s'
  | balk {w k e} (h : s.receiver.waiters.getD w .pending = .pending) (he : s.patience = .error e) :
      Manage s (.awaitAuth w k) .go (.ended (.error e)) s
  | answered {w k r} (h : s.receiver.waiters.getD w .pending = .done r) :
      Manage s (.awaitAuth w k) .go (.enter r) s
  | refused {w k c} (h : s.receiver.waiters.getD w .pending = .failed (.authentication c)) :
      Manage s (.awaitAuth w k) .go (.ended (.error (.authentication c))) s.failConnecting
  | dropped {w k e} (h : s.receiver.waiters.getD w .pending = .failed e)
      (he : ∀ c, e ≠ .authentication c) :
      Manage s (.awaitAuth w k) .go (.ended (.error e)) (s.closedBy e)
  | cancelled {w k} (h : s.receiver.waiters.getD w .pending = .cancelled) :
      Manage s (.awaitAuth w k) .go (.ended (.error (.closed .unnamed)))
        (s.closedBy (.closed .unnamed))
  | strike {w k} (h : Clock.lt s.now k = false)
      (hw : (s.receiver.waiters.getD w .pending).isPending = true) :
      Manage s (.awaitAuth w (some k)) .struck (.giveUp w) s
  | giveUp {w} :
      Manage s (.giveUp w) .go (.ended (.error (.timedOut .noAuthentication)))
        (s.withReceiver s.receiver.cancelAuth).failConnecting
  | refuseEntry {r} (h : grantedId? r = none) :
      Manage s (.enter r) .go (.ended (.error (.authentication (refusal r)))) s.failConnecting
  | enter {r id l} (h : grantedId? r = some id) (hs : s.state = .connecting) :
      Manage s (.enter r) .go (.ended (.ok none))
        ({ s with state := .authenticated, sessionId := some id }.logged .info l)
  | enterLate {r id} (h : grantedId? r = some id) (hs : s.state ≠ .connecting) :
      Manage s (.enter r) .go (.leave (.closed .duringConnect)) s
  | leave {e} : Manage s (.leave e) .go (.ended (.error e)) s.closeConnection
  | close :
      Manage s .close .go (.failAll (s.state = .closed) s.installed) { s with state := .closed }
  | failAll {b₁ b₂} :
      Manage s (.failAll b₁ b₂) .go (.disconnect b₁ b₂)
        (s.withReceiver (s.receiver.failRequests .sessionClosed))
  | disconnect {b₁ b₂} :
      Manage s (.disconnect b₁ b₂) .go (.join b₁) (if b₂ then s.closeConnection else s)
  | join {b l} :
      Manage s (.join b) .go (.ended (.ok none)) (if b then s else s.logged .info l)

theorem manage_connectStep (s : Session τ) (x : Value) :
    Manage s (.connect x) .go (s.connectStep x).1 (s.connectStep x).2 := by
  unfold connectStep
  split
  · next h => exact .connect h
  · next h => exact .connectAgain h

theorem manage_openingStep (s : Session τ) (x : Value) (o : Option Failure) :
    Manage s (.opening x) (.opened o) (s.openingStep x o).1 (s.openingStep x o).2 := by
  unfold openingStep
  split
  · next h => exact .opened h
  · next h => exact .failOpening h

theorem manage_installStep (s : Session τ) (x : Value) :
    Manage s (.install x) .go (s.installStep x).1 (s.installStep x).2 := by
  unfold installStep
  split
  · next h => exact .installLate h
  · next h => exact .install h

theorem manage_greetStep (s : Session τ) (x : Value) (w : Nat) (o : Option Failure) :
    Manage s (.greet x w) (.written o) (s.greetStep x w o).1 (s.greetStep x w o).2 := by
  unfold greetStep
  split
  · next h => exact .ungreetable h
  · next f h =>
    split
    · next hw => exact .failGreeting h hw
    · next hw => exact .greet h hw

theorem manage_awaitAuth (n : Nat) (s : Session τ) (w : Nat) (k : Option τ) :
    Manage s (.awaitAuth w k) .go (s.moved n (.awaitAuth w k) .go).1
      (s.moved n (.awaitAuth w k) .go).2 := by
  simp only [moved]
  unfold authSettled
  split
  · next h =>
    split
    · exact .stay id
    · next he => exact .balk h he
  · next h => exact .answered h
  · next h => exact .refused h
  · next e he h => exact .dropped h he
  · next h => exact .cancelled h

theorem manage_struck (n : Nat) (s : Session τ) (w : Nat) (k : Option τ) :
    Manage s (.awaitAuth w k) .struck (s.moved n (.awaitAuth w k) .struck).1
      (s.moved n (.awaitAuth w k) .struck).2 := by
  cases k with
  | none => exact .stay id
  | some k =>
    simp only [moved]
    split
    · exact .stay id
    · next h =>
      obtain ⟨hlt, hw⟩ : Clock.lt s.now k = false ∧
          (s.receiver.waiters.getD w .pending).isPending = true := by simpa using h
      exact .strike hlt hw

theorem manage_enterStep (s : Session τ) (r : AuthResponse) :
    Manage s (.enter r) .go (s.enterStep r).1 (s.enterStep r).2 := by
  unfold enterStep
  split
  · next h => exact .refuseEntry h
  · next id h =>
    split
    · next hs => exact .enter h hs
    · next hs => exact .enterLate h hs

theorem manage_moved (n : Nat) (s : Session τ) {p : Phase τ} (sig : Signal) (hp : ¬p.IsAsk) :
    Manage s p sig (s.moved n p sig).1 (s.moved n p sig).2 := by
  cases p with
  | connect x => cases sig <;> first | exact manage_connectStep s x | exact .stay hp
  | opening x => cases sig <;> first | exact manage_openingStep s x _ | exact .stay hp
  | install x => cases sig <;> first | exact manage_installStep s x | exact .stay hp
  | announce x => cases sig <;> first | exact .announce | exact .stay hp
  | greet x w => cases sig <;> first | exact manage_greetStep s x w _ | exact .stay hp
  | awaitAuth w k =>
    cases sig with
    | go => exact manage_awaitAuth n s w k
    | struck => exact manage_struck n s w k
    | opened | written | answered => cases k <;> exact .stay hp
  | giveUp w => cases sig <;> first | exact .giveUp | exact .stay hp
  | enter r => cases sig <;> first | exact manage_enterStep s r | exact .stay hp
  | leave e => cases sig <;> first | exact .leave | exact .stay hp
  | close => cases sig <;> first | exact .close | exact .stay hp
  | failAll => cases sig <;> first | exact .failAll | exact .stay hp
  | disconnect => cases sig <;> first | exact .disconnect | exact .stay hp
  | join => cases sig <;> first | exact .join | exact .stay hp
  | ended r => cases sig <;> exact .stay hp
  | ask | check | register | send | await | expire | registerFinal | upload | uploading | restart
  | abandon => exact absurd trivial hp

omit [Clock τ] in
theorem failConnecting_eq (s : Session τ) : ∃ st, s.failConnecting = { s with state := st } := by
  unfold failConnecting
  split
  · exact ⟨_, rfl⟩
  · exact ⟨s.state, rfl⟩

omit [Clock τ] in
theorem closedBy_eq (s : Session τ) (e : Error) : ∃ st, s.closedBy e = { s with state := st } := by
  cases e <;> first | exact ⟨s.state, rfl⟩ | exact ⟨_, rfl⟩

variable {s s' : Session τ} {p p' : Phase τ} {sig : Signal}

theorem Manage.not_isAsk (h : Manage s p sig p' s') : ¬p'.IsAsk := by
  cases h with
  | stay hp => exact hp
  | _ => exact id

theorem Manage.eq_with (h : Manage s p sig p' s') : ∃ st id t b r rd os ls, s' = { s with
    state := st, sessionId := id, connection := t, installed := b, receiver := r, reader := rd,
    openings := os, log := ls } := by
  cases h with
  | failOpening | dropped | cancelled =>
    obtain ⟨st, hs⟩ := s.closedBy_eq _
    exact ⟨_, _, _, _, _, _, _, _, hs⟩
  | failGreeting _ hw =>
    obtain ⟨t, rfl⟩ := write_eq hw
    obtain ⟨st, hs⟩ := closedBy_eq { s with connection := t } _
    exact ⟨_, _, _, _, _, _, _, _, hs⟩
  | greet _ hw =>
    obtain ⟨t, rfl⟩ := write_eq hw
    exact ⟨_, _, _, _, _, _, _, _, rfl⟩
  | refused | refuseEntry =>
    obtain ⟨st, hs⟩ := s.failConnecting_eq
    exact ⟨_, _, _, _, _, _, _, _, hs⟩
  | giveUp =>
    obtain ⟨st, hs⟩ := (s.withReceiver s.receiver.cancelAuth).failConnecting_eq
    exact ⟨_, _, _, _, _, _, _, _, hs⟩
  | disconnect | join => split <;> exact ⟨_, _, _, _, _, _, _, _, rfl⟩
  | _ => exact ⟨_, _, _, _, _, _, _, _, rfl⟩

theorem Manage.callers (h : Manage s p sig p' s') : s'.callers = s.callers := by
  obtain ⟨st, id, t, b, r, rd, os, ls, rfl⟩ := h.eq_with
  rfl

/-- What a caller does to the receiver: it announces that it waits, gives up, or fails all requests. -/
inductive Handles (r : Receiver τ) (p : Phase τ) : Signal → Receiver τ → Prop
  | announce {x} (hp : p = .announce x) : Handles r p .go r.expectAuth.2
  | giveUp {w} (hp : p = .giveUp w) : Handles r p .go r.cancelAuth
  | failAll {b₁ b₂} (hp : p = .failAll b₁ b₂) : Handles r p .go (r.failRequests .sessionClosed)

theorem Manage.handles (h : Manage s p sig p' s') : s'.receiver = s.receiver ∨
    ∃ r, s'.receiver = { r with log := [] } ∧ Handles s.receiver p sig r := by
  cases h with
  | announce => exact .inr ⟨_, rfl, .announce rfl⟩
  | failAll => exact .inr ⟨_, rfl, .failAll rfl⟩
  | giveUp =>
    obtain ⟨st, hs⟩ := (s.withReceiver s.receiver.cancelAuth).failConnecting_eq
    rw [hs]
    exact .inr ⟨_, rfl, .giveUp rfl⟩
  | failOpening | dropped | cancelled =>
    obtain ⟨st, hs⟩ := s.closedBy_eq _
    rw [hs]
    exact .inl rfl
  | failGreeting _ hw =>
    obtain ⟨t, rfl⟩ := write_eq hw
    obtain ⟨st, hs⟩ := closedBy_eq { s with connection := t } _
    rw [hs]
    exact .inl rfl
  | greet _ hw =>
    obtain ⟨t, rfl⟩ := write_eq hw
    exact .inl rfl
  | refused | refuseEntry =>
    obtain ⟨st, hs⟩ := s.failConnecting_eq
    rw [hs]
    exact .inl rfl
  | disconnect | join => split <;> exact .inl rfl
  | _ => exact .inl rfl

/-- A caller that does not ask leaves the correlator alone unless it fails all requests. -/
theorem Manage.correlator (h : Manage s p sig p' s') :
    s'.correlator = s.correlator ∨ ∃ b₁ b₂, p = .failAll b₁ b₂ ∧ sig = .go ∧
      s'.correlator = s.correlator.after (.failAll .sessionClosed) := by
  obtain hr | ⟨r, hr, hh⟩ := h.handles
  · exact .inl (congrArg Receiver.correlator hr)
  · have hc : s'.correlator = r.correlator := by
      unfold Session.correlator
      rw [hr]
    rw [hc]
    cases hh with
    | announce => exact .inl rfl
    | giveUp => exact .inl (Receiver.correlator_settleWaiter _ _)
    | failAll hp => exact .inr ⟨_, _, hp, rfl, rfl⟩

end VerdictClient.Session
