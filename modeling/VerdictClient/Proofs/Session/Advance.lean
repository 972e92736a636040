import VerdictClient.Proofs.Correlator
import VerdictClient.Session.Event

namespace VerdictClient.Session

variable {τ : Type} [Clock τ]

/-- The caller asks for a verdict and has not ended. -/
def Phase.IsAsk : Phase τ → Prop
  | .ask _ | .check _ | .register _ | .send _ _ | .await _ _ _ _ | .expire _ _ _
  | .registerFinal _ _ _ _ | .upload _ _ _ _ _ | .uploading _ _ _ _ | .restart _ _ | .abandon _ _ => True
  | _ => False

def Phase.Takes : Phase τ → Signal → Prop
  | .send _ _, .written _ | .uploading _ _ _ _, .answered _ | .await _ _ _ _, .struck => True
  | .send _ _, .go | .uploading _ _ _ _, .go => False
  | _, .go => True
  | _, _ => False

/-- How caller `n` advances, with the session after it. -/
inductive Advance (n : Nat) (s : Session τ) : Phase τ → Signal → Phase τ → Session τ → Prop
  | refuse {a e k} (h : (s.prepare a).1 = .error e) :
      Advance n s (.ask a) .go (.ended (.error e)) { s with guids := k }
  | prepare {a j k} (h : (s.prepare a).1 = .ok j) :
      Advance n s (.ask a) .go (.check j) { s with guids := k }
  | shut {j} (h : s.transport?.all (·.closed) = true) :
      Advance n s (.check j) .go (.ended (.error (.closed .unnamed))) s
  | check {j} (h : s.transport?.all (·.closed) = false) : Advance n s (.check j) .go (.register j) s
  | deny {j e} (h : s.correlator.register s.now j.request.guid j.timeout false = .error e) :
      Advance n s (.register j) .go (.ended (.error e)) s
  | register {j k c} (h : s.correlator.register s.now j.request.guid j.timeout false = .ok (k, c)) :
      Advance n s (.register j) .go (.send j k) (s.withCorrelator c)
  | unencodable {j k o e} (h : (Outbound.verdict j.request).encode = .error e) :
      Advance n s (.send j k) (.written o) (.ended (.error (.unencodable e))) s
  | breakOff {j k o f e s'} (h : (Outbound.verdict j.request).encode = .ok f)
      (hw : s.write f o = (.error e, s')) (he : ∀ c, e ≠ .closed c) :
      Advance n s (.send j k) (.written o) (.ended (.error e)) s'
  | breakClosed {j k o f c s'} (h : (Outbound.verdict j.request).encode = .ok f)
      (hw : s.write f o = (.error (.closed c), s')) :
      Advance n s (.send j k) (.written o) (.abandon j.request.guid (.closed c)) s'
  | written {j k o f s' l} (h : (Outbound.verdict j.request).encode = .ok f)
      (hw : s.write f o = (.ok (), s')) :
      Advance n s (.send j k) (.written o) (.await j .first k (s'.wakeOf k)) (s'.logged .debug l)
  | linger {j st k w sig} (h : sig = .go ∧ s.awaitSettled j st k = none ∨ sig = .struck ∧
        (Clock.lt s.now w = true ∨ ∃ t, s.correlator.ticket? k = some t ∧ t.outcome ≠ .pending)) :
      Advance n s (.await j st k w) sig (.await j st k w) s
  | settle {j st k w t a} (ht : s.correlator.ticket? k = some t) (ha : Correlator.answer? t = some a) :
      Advance n s (.await j st k w) .go (received j st a) s
  | balk {j st k w t} (ht : s.correlator.ticket? k = some t) (ho : t.outcome = .pending)
      (h : Correlator.outlasts s.now t = true) :
      Advance n s (.await j st k w) .go (.ended (.error (.timeoutRange false))) s
  | strike {j st k w} (h : Clock.lt s.now w = false)
      (ho : ∀ t, s.correlator.ticket? k = some t → t.outcome = .pending) :
      Advance n s (.await j st k w) .struck (.expire j st k) s
  | expire {j st k t} (ht : s.correlator.ticket? k = some t) :
      Advance n s (.expire j st k) .go (received j st (Correlator.lateAnswer t))
        (s.withCorrelator (s.correlator.forget k))
  | lose {j st k} (ht : s.correlator.ticket? k = none) :
      Advance n s (.expire j st k) .go (.expire j st k) (s.withCorrelator (s.correlator.forget k))
  | denyFinal {j x b l e}
      (h : s.correlator.register s.now j.request.guid j.timeout true = .error e) :
      Advance n s (.registerFinal j x b l) .go (.ended (.error e)) s
  | registerFinal {j x b l k c}
      (h : s.correlator.register s.now j.request.guid j.timeout true = .ok (k, c)) :
      Advance n s (.registerFinal j x b l) .go (.upload j k x b l) (s.withCorrelator c)
  | failUpload {j k x b l e}
      (h : Upload.start s.files x ⟨s.settings.uploadTimeout, l⟩ b = .error e) :
      Advance n s (.upload j k x b l) .go (uploadFailed j e) s
  | upload {j k x b l put} (h : Upload.start s.files x ⟨s.settings.uploadTimeout, l⟩ b = .ok put) :
      Advance n s (.upload j k x b l) .go (.uploading j k x b) { s with puts := s.puts ++ [(n, put)] }
  | refuseUpload {j k x b o e} (h : Upload.finish x b o = .error e) :
      Advance n s (.uploading j k x b) (.answered o) (uploadFailed j e) s
  | finishUpload {j k x b o line} (h : Upload.finish x b o = .ok line) :
      Advance n s (.uploading j k x b) (.answered o) (.restart j k) { s with log := s.log ++ [line] }
  | denyRestart {j k e} (h : Correlator.deadline s.now j.timeout = .error e) :
      Advance n s (.restart j k) .go (.ended (.error e)) s
  | restart {j k d l} (h : Correlator.deadline s.now j.timeout = .ok d) :
      Advance n s (.restart j k) .go
        (.await j .final k ((s.withCorrelator (s.correlator.restart k d)).wakeOf k))
        ((s.withCorrelator (s.correlator.restart k d)).logged .debug l)
  | abandon {g e} :
      Advance n s (.abandon g e) .go (.ended (.error e)) (s.withCorrelator (s.correlator.discard g))

omit [Clock τ] in
theorem prepare_snd (s : Session τ) (a : Ask τ) : ∃ k, (s.prepare a).2 = { s with guids := k } := by
  unfold prepare
  split
  · exact ⟨_, rfl⟩
  split
  · exact ⟨_, rfl⟩
  split
  · exact ⟨_, rfl⟩
  · unfold chooseGuid
    by_cases h : a.guid.isTruthy = true
    · simp only [h, if_true]
      split <;> exact ⟨_, rfl⟩
    · simp only [h]
      split <;> exact ⟨_, rfl⟩

theorem advance_askStep (n : Nat) (s : Session τ) (a : Ask τ) :
    Advance n s (.ask a) .go (s.askStep a).1 (s.askStep a).2 := by
  obtain ⟨k, hk⟩ := s.prepare_snd a
  unfold askStep
  split
  · next e s' h =>
    rw [h] at hk
    obtain rfl : s' = _ := hk
    exact .refuse (by rw [h])
  · next e s' h =>
    rw [h] at hk
    obtain rfl : s' = _ := hk
    exact .prepare (by rw [h])

theorem advance_checkStep (n : Nat) (s : Session τ) (j : Job τ) :
    Advance n s (.check j) .go (s.checkStep j).1 (s.checkStep j).2 := by
  unfold checkStep
  split
  · next h => exact .shut h
  · next h => exact .check (by simpa using h)

theorem advance_registerStep (n : Nat) (s : Session τ) (j : Job τ) :
    Advance n s (.register j) .go (s.registerStep j).1 (s.registerStep j).2 := by
  unfold registerStep
  split
  · next h => exact .deny h
  · next h => exact .register h

theorem advance_sendStep (n : Nat) (s : Session τ) (j : Job τ) (k : Nat) (o : Option Failure) :
    Advance n s (.send j k) (.written o) (s.sendStep j k o).1 (s.sendStep j k o).2 := by
  unfold sendStep
  split
  · next h => exact .unencodable h
  · next f h =>
    split
    · next hw => exact .breakClosed h hw
    · next he hw => exact .breakOff h hw he
    · next hw => exact .written h hw

theorem awaitSettled_eq_none_iff {s : Session τ} {j : Job τ} {st : Stage} {k : Nat} :
    s.awaitSettled j st k = none ↔ ∀ t, s.correlator.ticket? k = some t →
      t.outcome = .pending ∧ Correlator.outlasts s.now t = false := by
  unfold awaitSettled
  cases s.correlator.ticket? k with
  | none => simp
  | some t =>
    simp only [Option.some.injEq, forall_eq', ← Correlator.answer?_eq_none_iff]
    cases Correlator.answer? t <;> simp

theorem advance_awaitSettled (n : Nat) (s : Session τ) (j : Job τ) (st : Stage) (k : Nat) (w : τ) :
    Advance n s (.await j st k w) .go ((s.awaitSettled j st k).getD (.await j st k w)) s := by
  cases h : s.awaitSettled j st k with
  | none => exact .linger (.inl ⟨rfl, h⟩)
  | some p =>
    unfold awaitSettled at h
    split at h
    · cases h
    · next t ht =>
      split at h
      · next a ha =>
        obtain rfl := Option.some.inj h
        exact .settle ht ha
      · next ha =>
        split at h
        · next hlong =>
          obtain rfl := Option.some.inj h
          exact .balk ht (Correlator.answer?_eq_none_iff.1 ha) hlong
        · cases h

theorem advance_struck (n : Nat) (s : Session τ) (j : Job τ) (st : Stage) (k : Nat) (w : τ) :
    Advance n s (.await j st k w) .struck (s.moved n (.await j st k w) .struck).1
      (s.moved n (.await j st k w) .struck).2 := by
  have hiff : (s.correlator.ticket? k).any (!·.outcome.isPending) = true ↔
      ∃ t, s.correlator.ticket? k = some t ∧ t.outcome ≠ .pending := by
    simp [Option.any_eq_true, ← Future.isPending_iff]
  simp only [moved]
  split
  · next h =>
    rw [Bool.or_eq_true, hiff] at h
    exact .linger (.inr ⟨rfl, h⟩)
  · next h =>
    rw [Bool.or_eq_true, hiff, not_or, Bool.not_eq_true] at h
    refine .strike h.1 fun t ht ↦ ?_
    by_contra ho
    exact h.2 ⟨t, ht, ho⟩

theorem advance_expireStep (n : Nat) (s : Session τ) (j : Job τ) (st : Stage) (k : Nat) :
    Advance n s (.expire j st k) .go (s.expireStep j st k).1 (s.expireStep j st k).2 := by
  unfold expireStep
  dsimp only
  split
  · next h => exact .lose h
  · next h => exact .expire h

theorem advance_registerFinalStep (n : Nat) (s : Session τ) (j : Job τ) (x : Upload.Target)
    (b : Upload.Content) (l : Option Value) :
    Advance n s (.registerFinal j x b l) .go (s.registerFinalStep j x b l).1
      (s.registerFinalStep j x b l).2 := by
  unfold registerFinalStep
  split
  · next h => exact .denyFinal h
  · next h => exact .registerFinal h

theorem advance_uploadStep (n : Nat) (s : Session τ) (j : Job τ) (k : Nat) (x : Upload.Target)
    (b : Upload.Content) (l : Option Value) :
    Advance n s (.upload j k x b l) .go (s.uploadStep n j k x b l).1 (s.uploadStep n j k x b l).2 := by
  unfold uploadStep
  split
  · next h => exact .failUpload h
  · next h => exact .upload h

theorem advance_uploadingStep (n : Nat) (s : Session τ) (j : Job τ) (k : Nat) (x : Upload.Target)
    (b : Upload.Content) (o : Http.Outcome) :
    Advance n s (.uploading j k x b) (.answered o) (s.uploadingStep j k x b o).1
      (s.uploadingStep j k x b o).2 := by
  unfold uploadingStep
  split
  · next h => exact .refuseUpload h
  · next h => exact .finishUpload h

theorem advance_restartStep (n : Nat) (s : Session τ) (j : Job τ) (k : Nat) :
    Advance n s (.restart j k) .go (s.restartStep j k).1 (s.restartStep j k).2 := by
  unfold restartStep
  split
  · next h => exact .denyRestart h
  · next h => exact .restart h

theorem advance_moved (n : Nat) (s : Session τ) {p : Phase τ} {sig : Signal} (hp : p.IsAsk)
    (hs : p.Takes sig) : Advance n s p sig (s.moved n p sig).1 (s.moved n p sig).2 := by
  cases p with
  | ask a => cases sig <;> first | exact hs.elim | exact advance_askStep n s a
  | check j => cases sig <;> first | exact hs.elim | exact advance_checkStep n s j
  | register j => cases sig <;> first | exact hs.elim | exact advance_registerStep n s j
  | send j k => cases sig <;> first | exact hs.elim | exact advance_sendStep n s j k _
  | await j st k w =>
    cases sig with
    | go => exact advance_awaitSettled n s j st k w
    | struck => exact advance_struck n s j st k w
    | opened | written | answered => exact hs.elim
  | expire j st k => cases sig <;> first | exact hs.elim | exact advance_expireStep n s j st k
  | registerFinal j x b l =>
    cases sig <;> first | exact hs.elim | exact advance_registerFinalStep n s j x b l
  | upload j k x b l => cases sig <;> first | exact hs.elim | exact advance_uploadStep n s j k x b l
  | uploading j k x b =>
    cases sig <;> first | exact hs.elim | exact advance_uploadingStep n s j k x b _
  | restart j k => cases sig <;> first | exact hs.elim | exact advance_restartStep n s j k
  | abandon g e => cases sig <;> first | exact hs.elim | exact .abandon
  | connect | opening | install | announce | greet | awaitAuth | giveUp | enter | leave | close
  | failAll | disconnect | join | ended => exact hp.elim

theorem moved_of_not_takes (n : Nat) (s : Session τ) {p : Phase τ} {sig : Signal} (hp : p.IsAsk)
    (hs : ¬p.Takes sig) : s.moved n p sig = (p, s) := by
  cases p <;> cases sig <;> first | exact hp.elim | exact absurd trivial hs | rfl

omit [Clock τ] in
theorem write_eq {s s' : Session τ} {f : Text} {o : Option Failure} {r : Except Error Unit}
    (h : s.write f o = (r, s')) : ∃ t, s' = { s with connection := t } := by
  unfold write at h
  split at h
  · exact ⟨s.connection, (Prod.mk.inj h).2.symm⟩
  · exact ⟨_, (Prod.mk.inj h).2.symm⟩

/-- A caller that asks leaves the lifecycle, the handshake and the other callers alone. -/
theorem Advance.eq_with {n : Nat} {s s' : Session τ} {p p' : Phase τ} {sig : Signal}
    (h : Advance n s p sig p' s') : ∃ t c k ps ls, s' = { s with
      connection := t, receiver := { s.receiver with correlator := c },
      guids := k, puts := ps, log := ls } := by
  cases h with
  | breakOff _ hw | breakClosed _ hw | written _ hw =>
    obtain ⟨t, rfl⟩ := write_eq hw
    exact ⟨_, _, _, _, _, rfl⟩
  | _ => exact ⟨_, _, _, _, _, rfl⟩

omit [Clock τ] in
theorem received_cases (j : Job τ) (st : Stage) (a : Except Error VerdictResponse) :
    (received j st a).IsAsk ∨ ∃ r, received j st a = .ended r := by
  unfold received
  split
  · exact .inr ⟨_, rfl⟩
  · split
    · split
      · split
        · exact .inr ⟨_, rfl⟩
        · exact .inl trivial
      · exact .inr ⟨_, rfl⟩
    · exact .inr ⟨_, rfl⟩

omit [Clock τ] in
theorem uploadFailed_cases (j : Job τ) (e : Error) :
    (uploadFailed j e).IsAsk ∨ ∃ r, uploadFailed j e = .ended r := by
  cases e with
  | upload c => exact .inl trivial
  | _ => exact .inr ⟨_, rfl⟩

theorem Advance.isAsk_or_ended {n : Nat} {s s' : Session τ} {p p' : Phase τ} {sig : Signal}
    (h : Advance n s p sig p' s') : p'.IsAsk ∨ ∃ r, p' = .ended r := by
  cases h with
  | settle | expire => exact received_cases ..
  | failUpload | refuseUpload => exact uploadFailed_cases ..
  | refuse | shut | deny | unencodable | breakOff | balk | denyFinal | denyRestart | abandon =>
    exact .inr ⟨_, rfl⟩
  | _ => exact .inl trivial

end VerdictClient.Session
