import VerdictClient.Proofs.Session.Acts

namespace VerdictClient.Session

variable {τ : Type} [Clock τ]

/-- The job and the stage of a caller that a response can reach, with its ticket. -/
def Phase.hold? : Phase τ → Option (Job τ × Stage × Nat)
  | .send j k => some (j, .first, k)
  | .await j st k _ | .expire j st k => some (j, st, k)
  | .upload j k _ _ _ | .uploading j k _ _ | .restart j k => some (j, .final, k)
  | _ => none

def hands? (s : Session τ) : Event τ → Option Nat
  | .move n sig =>
    if s.correlator.tickets.length < (s.step (.move n sig)).correlator.tickets.length then some n
    else none
  | _ => none

/-- The owners of the tickets that a run hands out, in order. -/
def owners (s : Session τ) (es : List (Event τ)) : List Nat := observed hands? s es

omit [Clock τ] in
theorem Phase.isAsk_of_hold? {p : Phase τ} {x : Job τ × Stage × Nat} (h : p.hold? = some x) :
    p.IsAsk := by
  cases p with
  | send | await | expire | upload | uploading | restart => trivial
  | _ => cases h

omit [Clock τ] in
theorem hold?_received (j : Job τ) (st : Stage) (r : Except Error VerdictResponse) :
    (received j st r).hold? = none := by
  unfold received
  split
  · rfl
  · split
    · split
      · split <;> rfl
      · rfl
    · rfl

omit [Clock τ] in
theorem hold?_uploadFailed (j : Job τ) (e : Error) : (uploadFailed j e).hold? = none := by
  cases e <;> rfl

/-- A caller keeps its ticket until it waits no more, and gets one only by registering. -/
theorem Advance.hold {n : Nat} {s s' : Session τ} {p p' : Phase τ} {sig : Signal} {j : Job τ}
    {st : Stage} {k : Nat} (h : Advance n s p sig p' s') (hh : p'.hold? = some (j, st, k)) :
    p.hold? = some (j, st, k) ∨ p.registers? = some (j, st) ∧ sig = .go ∧
      ∃ c, s.correlator.register s.now j.request.guid j.timeout st.isFinal = .ok (k, c) ∧
        s' = s.withCorrelator c := by
  cases h with
  | register hr | registerFinal hr =>
    cases hh
    exact .inr ⟨rfl, rfl, _, hr, rfl⟩
  | settle | expire => exact absurd hh (by simp [hold?_received])
  | failUpload | refuseUpload => exact absurd hh (by simp [hold?_uploadFailed])
  | linger | strike | written | upload | finishUpload | restart | lose => exact .inl hh
  | _ => cases hh

theorem moved_registers {s : Session τ} {n k : Nat} {p : Phase τ} {j : Job τ} {st : Stage}
    {c : Correlator τ} (hj : p.registers? = some (j, st))
    (hr : s.correlator.register s.now j.request.guid j.timeout st.isFinal = .ok (k, c)) :
    ∃ p', s.moved n p .go = (p', s.withCorrelator c) ∧ p'.hold? = some (j, st, k) := by
  cases p with
  | register =>
    cases hj
    refine ⟨.send j k, ?_, rfl⟩
    simp only [Stage.isFinal] at hr
    simp only [moved, registerStep, hr]
  | registerFinal _ x b l =>
    cases hj
    refine ⟨.upload j k x b l, ?_, rfl⟩
    simp only [Stage.isFinal] at hr
    simp only [moved, registerFinalStep, hr]
  | _ => cases hj

theorem hands?_of_acts {s : Session τ} {e : Event τ} {a : Correlator.Act τ} (h : Acts s e a)
    (he : (s.step e).correlator = s.correlator.after a) :
    (s.hands? e).toList.length = a.enrolls.toNat := by
  have hl := congrArg (·.tickets.length) he
  simp only [Correlator.length_after] at hl
  cases h with
  | resolve | lose => rfl
  | _ => simp [hands?, hl, Correlator.Act.enrolls]

theorem hands?_of_correlator_eq {s : Session τ} {e : Event τ}
    (he : (s.step e).correlator = s.correlator) : s.hands? e = none := by
  cases e with
  | move n sig => simp [hands?, he]
  | call | frame | lost | reader | clock => rfl

/-- A ticket that waits as long as it is unsettled keeps doing so unless a step forgets it. -/
theorem ticket_step {s : Session τ} {e : Event τ} {k : Nat} {t : Ticket τ}
    (h : s.correlator.Sound) (ht : s.correlator.ticket? k = some t)
    (hw : t.outcome = .pending → s.correlator.IsWaiting k) (hf : ¬Acts s e (.forget k)) :
    ∃ t', (s.step e).correlator.ticket? k = some t' ∧ t'.guid = t.guid ∧
      t'.finalOnly = t.finalOnly ∧
      (t'.outcome = .pending → (s.step e).correlator.IsWaiting k) := by
  obtain ⟨he, -⟩ | ⟨a, ha, he⟩ := s.correlator_step e
  · rw [he]
    exact ⟨t, ht, rfl, rfl, hw⟩
  · rw [he]
    by_cases hn : s.correlator.IsWaiting k
    · obtain ⟨o, ho, -, ht'⟩ | ⟨rfl, -⟩ | ⟨-, hn', ht'⟩ := h.after_of_waiting ht hn a
      · refine ⟨_, ht', rfl, rfl, fun hp ↦ ?_⟩
        obtain rfl : o = .pending := hp
        exact absurd ho Correlator.Act.outcome?_ne_pending
      · exact absurd ha hf
      · exact ⟨_, ht', rfl, rfl, fun _ ↦ hn'⟩
    · obtain ⟨-, ht'⟩ := h.after_of_not_waiting ht hn a
      exact ⟨_, ht', rfl, rfl, fun hp ↦ absurd (hw hp) hn⟩

/-- The ticket that caller `n` holds for the stage `st` of its job `j`: it is its own, and it waits as
long as it is unsettled. -/
structure Holds (s : Session τ) (os : List Nat) (n : Nat) (j : Job τ) (st : Stage) (k : Nat) : Prop where
  owner : os[k]? = some n
  ticket : ∃ t, s.correlator.ticket? k = some t ∧ t.guid = j.request.guid ∧
    t.finalOnly = st.isFinal ∧ (t.outcome = .pending → s.correlator.IsWaiting k)
  timeout : ∃ span, j.timeout.span? = some span

/-- The owners `os` of the tickets that a session has handed out. -/
structure Ledger (s : Session τ) (os : List Nat) : Prop where
  sound : s.correlator.Sound
  length : os.length = s.correlator.tickets.length
  held : ∀ {n p j st k}, s.callers[n]? = some p → p.hold? = some (j, st, k) → Holds s os n j st k

variable {s : Session τ} {os : List Nat} {e : Event τ} {n k : Nat}

theorem Ledger.not_forget (h : Ledger s os) (hk : os[k]? = some n)
    (he : ∀ j st, s.callers[n]? = some (.expire j st k) → e ≠ .move n .go) : ¬Acts s e (.forget k) := by
  intro ha
  cases ha with
  | @forget m j st _ hp =>
    obtain rfl : m = n := Option.some_inj.1 ((h.held hp rfl).owner.symm.trans hk)
    exact he j st hp rfl

theorem Ledger.length_step (h : Ledger s os) :
    (os ++ (s.hands? e).toList).length = (s.step e).correlator.tickets.length := by
  rw [List.length_append, h.length]
  obtain ⟨he, -⟩ | ⟨a, ha, he⟩ := s.correlator_step e
  · rw [he, hands?_of_correlator_eq he]
    rfl
  · rw [he, hands?_of_acts ha he, Correlator.length_after]

theorem Ledger.sound_step (h : Ledger s os) : (s.step e).correlator.Sound := by
  obtain ⟨he, -⟩ | ⟨a, ha, he⟩ := s.correlator_step e
  · exact he ▸ h.sound
  · exact he ▸ h.sound.after ha.isAllowed

variable {j : Job τ} {st : Stage} {p' : Phase τ}

theorem getElem?_owners (hk : os[k]? = some n) : (os ++ (s.hands? e).toList)[k]? = some n := by
  rw [List.getElem?_append_left (List.getElem?_eq_some_iff.1 hk).1, hk]

theorem Ledger.holds_step (h : Ledger s os) {p : Phase τ} (hp : s.callers[n]? = some p)
    (hh : p.hold? = some (j, st, k)) (he : ∀ j st, p = .expire j st k → e ≠ .move n .go) :
    Holds (s.step e) (os ++ (s.hands? e).toList) n j st k := by
  obtain ⟨hk, ⟨t, ht, hg, hf, hw⟩, hj⟩ := h.held hp hh
  have hnf : ¬Acts s e (.forget k) :=
    h.not_forget hk fun j st hx ↦ he j st (Option.some_inj.1 (hp.symm.trans hx))
  obtain ⟨t', ht', hg', hf', hw'⟩ := ticket_step h.sound ht hw hnf
  exact ⟨getElem?_owners hk, ⟨t', ht', hg'.trans hg, hf'.trans hf, hw'⟩, hj⟩

omit [Clock τ] in
theorem ticket?_enroll {c : Correlator τ} {g : Text} {d : τ} {fo : Bool} :
    (c.enroll g d fo).ticket? c.tickets.length = some ⟨g, d, fo, .pending⟩ :=
  List.getElem?_concat_length

theorem correlator_of_register {p : Phase τ} {c : Correlator τ} (hp : s.callers[n]? = some p)
    (hs : (s.moved n p .go).2 = s.withCorrelator c)
    (hreg : s.correlator.register s.now j.request.guid j.timeout st.isFinal = .ok (k, c)) :
    k = s.correlator.tickets.length ∧ (∃ span, j.timeout.span? = some span) ∧
      ∃ d, (s.step (.move n .go)).correlator = s.correlator.enroll j.request.guid d st.isFinal := by
  obtain ⟨-, -, rfl, d, hd, rfl⟩ := Correlator.register_eq_ok_iff.1 hreg
  obtain ⟨span, hj, -⟩ := Correlator.deadline_eq_ok_iff.1 hd
  refine ⟨rfl, ⟨span, hj⟩, d, ?_⟩
  rw [step_move hp]
  exact congrArg correlator hs

theorem Ledger.holds_of_register (h : Ledger s os) {p : Phase τ} {c : Correlator τ}
    (hp : s.callers[n]? = some p) (hs : (s.moved n p .go).2 = s.withCorrelator c)
    (hreg : s.correlator.register s.now j.request.guid j.timeout st.isFinal = .ok (k, c)) :
    Holds (s.step (.move n .go)) (os ++ (s.hands? (.move n .go)).toList) n j st k := by
  obtain ⟨rfl, hspan, d, hcor⟩ := correlator_of_register hp hs hreg
  have hhand : s.hands? (.move n .go) = some n := by
    simp [hands?, hcor, Correlator.enroll]
  refine ⟨?_, ⟨_, hcor ▸ ticket?_enroll, rfl, rfl, fun _ ↦ ⟨j.request.guid, ?_⟩⟩, hspan⟩
  · rw [hhand, ← h.length]
    exact List.getElem?_concat_length
  · rw [hcor]
    exact List.mem_append_right _ (List.mem_singleton.2 rfl)

theorem Ledger.held_step (h : Ledger s os) (hp' : (s.step e).callers[n]? = some p')
    (hh : p'.hold? = some (j, st, k)) : Holds (s.step e) (os ++ (s.hands? e).toList) n j st k := by
  obtain ⟨hp, ht⟩ | ⟨p, sig, rfl, ha, ht, hp, hadv⟩ | ⟨a, -, -, rfl⟩ :=
    ask_step (Phase.isAsk_of_hold? hh) hp'
  · refine h.holds_step hp hh fun j' st' hx he ↦ ht _ he ?_
    rw [hx]
    trivial
  · obtain hh' | ⟨hr, rfl, c, hreg, hs⟩ := hadv.hold hh
    · refine h.holds_step hp hh' ?_
      rintro j' st' rfl he
      obtain rfl : sig = .go := (Event.move.inj he).2
      -- A caller that forgets its ticket holds it no more.
      generalize (s.moved n (.expire j' st' k) .go).2 = s' at hadv
      cases hadv with
      | expire => exact absurd hh (by simp [hold?_received])
      | lose hl =>
        obtain ⟨-, ⟨t, htk, -⟩, -⟩ := h.held hp rfl
        exact absurd htk (by simp [hl])
    · exact h.holds_of_register hp hs hreg
  · cases hh

theorem Ledger.step (h : Ledger s os) (e : Event τ) :
    Ledger (s.step e) (os ++ (s.hands? e).toList) :=
  ⟨h.sound_step, h.length_step, h.held_step⟩

theorem ledger_start (settings : Settings τ) (files : FileSystem) :
    Ledger (start settings files) [] := by
  refine ⟨Correlator.sound_empty, rfl, fun hp _ ↦ ?_⟩
  simp [start] at hp

theorem ledger_run (settings : Settings τ) (files : FileSystem) (es : List (Event τ)) :
    Ledger ((start settings files).run es) (owners (start settings files) es) := by
  induction es using List.reverseRecOn with
  | nil => exact ledger_start settings files
  | append_singleton es e ih =>
    rw [run_concat, owners, observed_concat]
    exact ih.step e

end VerdictClient.Session
