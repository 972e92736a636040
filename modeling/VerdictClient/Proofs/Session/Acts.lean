import VerdictClient.Proofs.Session.Step

namespace VerdictClient.Session

variable {τ : Type} [Clock τ]

/-- The response that an event hands to the correlator. -/
def dispatched? (s : Session τ) : Event τ → Option VerdictResponse
  | .frame f =>
    match s.reader, s.receiver.expecting, Inbound.decode f with
    | .reading, none, .ok (.verdict v) => some v
    | _, _, _ => none
  | _ => none

def Stage.isFinal : Stage → Bool
  | .first => false
  | .final => true

def Phase.registers? : Phase τ → Option (Job τ × Stage)
  | .register j => some (j, .first)
  | .registerFinal j _ _ _ => some (j, .final)
  | _ => none

/-- The act that an event performs on the correlator, with what it comes from. -/
inductive Acts (s : Session τ) : Event τ → Correlator.Act τ → Prop
  | enroll {n p j st d} (hp : s.callers[n]? = some p) (hj : p.registers? = some (j, st))
      (hc : s.correlator.closed = none) (hg : s.correlator.contains j.request.guid = false)
      (hd : Correlator.deadline s.now j.timeout = .ok d) :
      Acts s (.move n .go) (.enroll j.request.guid d st.isFinal)
  | resolve {f v} (h : s.dispatched? (.frame f) = some v) : Acts s (.frame f) (.resolve v.guid v)
  | discard {n g e} (hp : s.callers[n]? = some (.abandon g e)) : Acts s (.move n .go) (.discard g)
  | forget {n j st k} (hp : s.callers[n]? = some (.expire j st k)) :
      Acts s (.move n .go) (.forget k)
  | restart {n j k d} (hp : s.callers[n]? = some (.restart j k)) :
      Acts s (.move n .go) (.restart k d)
  | close {n b₁ b₂} (hp : s.callers[n]? = some (.failAll b₁ b₂)) :
      Acts s (.move n .go) (.failAll .sessionClosed)
  | lose {cause} (hr : s.reader = .failRequests cause) : Acts s .reader (.failAll cause)

theorem Acts.isAllowed {s : Session τ} {e : Event τ} {a : Correlator.Act τ} (h : Acts s e a) :
    a.IsAllowed s.correlator := by
  cases h with
  | enroll _ _ hc hg _ => exact ⟨hc, hg⟩
  | resolve | discard | forget | restart | close | lose => trivial

theorem acts_register {s : Session τ} {n k : Nat} {p : Phase τ} {j : Job τ} {st : Stage}
    {c : Correlator τ} (hp : s.callers[n]? = some p) (hj : p.registers? = some (j, st))
    (hr : s.correlator.register s.now j.request.guid j.timeout st.isFinal = .ok (k, c)) :
    ∃ a, Acts s (.move n .go) a ∧ c = s.correlator.after a := by
  obtain ⟨hc, hg, -, d, hd, rfl⟩ := Correlator.register_eq_ok_iff.1 hr
  exact ⟨_, .enroll hp hj hc hg hd, rfl⟩

theorem correlator_moved {s : Session τ} {n : Nat} {p : Phase τ} (hp : s.callers[n]? = some p)
    (sig : Signal) :
    (s.moved n p sig).2.correlator = s.correlator ∨
      ∃ a, Acts s (.move n sig) a ∧ (s.moved n p sig).2.correlator = s.correlator.after a := by
  by_cases ha : p.IsAsk
  · by_cases ht : p.Takes sig
    · have hadv := advance_moved n s ha ht
      generalize (s.moved n p sig).1 = p', (s.moved n p sig).2 = s' at hadv
      cases hadv with
      | register hr => exact .inr (acts_register hp rfl hr)
      | registerFinal hr => exact .inr (acts_register hp rfl hr)
      | breakOff _ hw | breakClosed _ hw | written _ hw =>
        obtain ⟨t, rfl⟩ := write_eq hw
        exact .inl rfl
      | expire | lose => exact .inr ⟨_, .forget hp, rfl⟩
      | restart => exact .inr ⟨_, .restart hp, rfl⟩
      | abandon => exact .inr ⟨_, .discard hp, rfl⟩
      | _ => exact .inl rfl
    · rw [moved_of_not_takes n s ha ht]
      exact .inl rfl
  · obtain h | ⟨b₁, b₂, rfl, rfl, h⟩ := (manage_moved n s sig ha).correlator
    · exact .inl h
    · exact .inr ⟨_, .close hp, h⟩

omit [Clock τ] in
theorem correlator_frameStep (s : Session τ) (f : Frame) :
    (s.frameStep f).correlator = s.correlator ∧ s.dispatched? (.frame f) = none ∨
      ∃ v, s.dispatched? (.frame f) = some v ∧
        (s.frameStep f).correlator = s.correlator.after (.resolve v.guid v) := by
  unfold frameStep dispatched?
  cases hr : s.reader with
  | reading =>
    cases he : s.receiver.expecting with
    | some w =>
      left
      simp only [Receiver.dispatch, he, Receiver.takeAnswer, and_true]
      cases Receiver.handshakeOutcome f with
      | ok o => exact Receiver.correlator_settleWaiter _ _
      | error c => rfl
    | none =>
      simp only [Receiver.dispatch, he, Receiver.route]
      split
      · next v h => exact .inr ⟨v, by simp only [h], rfl⟩
      · next r h => exact .inl ⟨rfl, by simp only [h]⟩
      · next e h => exact .inl ⟨rfl, by simp only [h]⟩
  | idle | failWaiter | failRequests | report | ended => exact .inl ⟨rfl, rfl⟩

/-- A step hands no response to the correlator and leaves it alone, or performs one act on it. -/
theorem correlator_step (s : Session τ) (e : Event τ) :
    (s.step e).correlator = s.correlator ∧ s.dispatched? e = none ∨
      ∃ a, Acts s e a ∧ (s.step e).correlator = s.correlator.after a := by
  cases e with
  | call i => exact .inl ⟨rfl, rfl⟩
  | lost f =>
    simp only [step, lostStep]
    split <;> exact .inl ⟨rfl, rfl⟩
  | clock moment =>
    simp only [step]
    split <;> exact .inl ⟨rfl, rfl⟩
  | move n sig =>
    cases hp : s.callers[n]? with
    | none => rw [step_move_of_none hp]; exact .inl ⟨rfl, rfl⟩
    | some p =>
      rw [step_move hp]
      obtain h | h := correlator_moved hp sig
      · exact .inl ⟨h, rfl⟩
      · exact .inr h
  | frame f =>
    obtain h | ⟨v, hv, h⟩ := s.correlator_frameStep f
    · exact .inl h
    · exact .inr ⟨_, .resolve hv, h⟩
  | reader =>
    simp only [step, readerStep]
    split
    · next e hr =>
      refine .inl ⟨?_, rfl⟩
      refine (Receiver.correlator_settleWaiter _ _).trans ?_
      cases e <;> rfl
    · next cause hr => exact .inr ⟨_, .lose hr, rfl⟩
    · simp only [reportLoss]
      split <;> exact .inl ⟨rfl, rfl⟩
    all_goals exact .inl ⟨rfl, rfl⟩

end VerdictClient.Session
