import VerdictClient.Proofs.Session.Tickets

namespace VerdictClient

def Session.Stage.accepts (st : Session.Stage) (v : VerdictResponse) : Bool :=
  !(st.isFinal && v.verdict == .unknown)

namespace Session

variable {τ : Type}

theorem accepts_of_finalOnly {t : Ticket τ} {st : Stage} (h : t.finalOnly = st.isFinal)
    (v : VerdictResponse) : t.accepts v = st.accepts v := by
  rw [Ticket.accepts, h, Stage.accepts]

variable [Clock τ]

/-- The response that an event dispatches to a caller that holds its ticket for a stage. -/
def heard? (n : Nat) (st : Stage) (s : Session τ) (e : Event τ) : Option VerdictResponse :=
  match (s.callers[n]?).bind Phase.hold?, s.dispatched? e with
  | some (j, st', _), some v => if st' = st ∧ v.guid = j.request.guid then some v else none
  | _, _ => none

/-- The responses that caller `n` hears at a stage, in order. -/
def heard (n : Nat) (st : Stage) (s : Session τ) (es : List (Event τ)) : List VerdictResponse :=
  observed (heard? n st) s es

/-- The request of caller `n` is made. -/
def Prepares (n : Nat) (a : Ask τ) (j : Job τ) (s : Session τ) (e : Event τ) : Prop :=
  e = .move n .go ∧ s.callers[n]? = some (.ask a) ∧ (s.prepare a).1 = .ok j

def Phase.Before (st : Stage) : Phase τ → Prop
  | .ask _ | .check _ | .register _ => True
  | .send _ _ | .registerFinal _ _ _ _ => st = .final
  | .await _ st' _ _ | .expire _ st' _ => st' = .first ∧ st = .final
  | _ => False

variable {s : Session τ} {os : List Nat} {e : Event τ} {n k : Nat} {st : Stage} {j : Job τ}

omit [Clock τ] in
theorem Phase.Before.isAsk {p : Phase τ} (h : p.Before st) : p.IsAsk := by
  cases p with
  | ask | check | register | send | await | expire | registerFinal | upload | uploading | restart
  | abandon => trivial
  | _ => exact h

omit [Clock τ] in
theorem Phase.Before.hold?_ne {p : Phase τ} (h : p.Before st) {st' : Stage}
    (hh : p.hold? = some (j, st', k)) : st' ≠ st := by
  cases p with
  | send =>
    cases hh
    exact fun hc ↦ by cases hc.trans h
  | await | expire =>
    cases hh
    exact fun hc ↦ by cases h.1.symm.trans (hc.trans h.2)
  | upload | uploading | restart => exact h.elim
  | _ => cases hh

omit [Clock τ] in
theorem Phase.before_of_registers? {p : Phase τ} (h : p.registers? = some (j, st)) : p.Before st := by
  cases p with
  | register => trivial
  | registerFinal =>
    cases h
    rfl
  | _ => cases h

omit [Clock τ] in
theorem before_received {st₁ : Stage} {a : Except Error VerdictResponse}
    (h : (received j st₁ a).Before st) : st₁ = .first ∧ st = .final := by
  unfold received at h
  split at h
  · exact h.elim
  · split at h
    · split at h
      · split at h
        · exact h.elim
        · exact ⟨rfl, h⟩
      · exact h.elim
    · exact h.elim

omit [Clock τ] in
theorem not_before_uploadFailed {r : Error} : ¬(uploadFailed j r).Before st := by
  cases r <;> exact id

theorem Advance.before {s' : Session τ} {p p' : Phase τ} {sig : Signal}
    (h : Advance n s p sig p' s') (hp : p'.Before st) : p.Before st := by
  cases h with
  | settle | expire => exact before_received hp
  | failUpload | refuseUpload => exact absurd hp not_before_uploadFailed
  | linger | strike | lose => exact hp
  | written => exact hp.2
  | prepare | check | register => trivial
  | restart => cases hp.1
  | _ => exact hp.elim

def NotYet (n : Nat) (st : Stage) (s : Session τ) : Prop :=
  ∀ p, s.callers[n]? = some p → p.Before st

theorem NotYet.of_step (h : NotYet n st (s.step e)) : NotYet n st s := by
  intro p hp
  obtain ⟨hp', -⟩ | ⟨sig, rfl, hp'⟩ := callers_step hp e
  · exact h p hp'
  · have hb := h _ hp'
    by_cases ha : p.IsAsk
    · by_cases ht : p.Takes sig
      · exact (advance_moved n s ha ht).before hb
      · rwa [moved_of_not_takes n s ha ht] at hb
    · exact absurd hb.isAsk (manage_moved n s sig ha).not_isAsk

omit [Clock τ] in
theorem NotYet.heard?_eq (h : NotYet n st s) (e : Event τ) : s.heard? n st e = none := by
  unfold heard?
  split
  · next hj hv =>
    obtain ⟨p, hp, hh⟩ := Option.bind_eq_some_iff.1 hj
    exact if_neg fun hc ↦ (h p hp).hold?_ne hh hc.1
  · rfl

omit [Clock τ] in
theorem content_of_prepare {a : Ask τ} (h : (s.prepare a).1 = .ok j) :
    j.content = a.query.content? := by
  unfold prepare at h
  split at h
  · cases h
  split at h
  · cases h
  split at h
  · cases h
  · dsimp only at h
    split at h
    · cases h
    · rw [← Except.ok.inj h]

theorem Prepares.step {a : Ask τ} (h : Prepares n a j s e) :
    (s.step e).callers[n]? = some (.check j) := by
  obtain ⟨rfl, hp, hprep⟩ := h
  rw [callers_step_move, if_pos rfl, hp, Option.map_some]
  simp only [moved, askStep]
  split
  · next he =>
    rw [he] at hprep
    cases hprep
  · next he =>
    rw [he] at hprep
    rw [Except.ok.inj hprep]

/-- How a step changes the outcome of a ticket that waits as long as it is unsettled. -/
theorem outcome_step (h : s.correlator.Sound) {t : Ticket τ} (ht : s.correlator.ticket? k = some t)
    (hw : t.outcome = .pending → s.correlator.IsWaiting k) (e : Event τ) :
    ∃ t', (s.step e).correlator.ticket? k = some t' ∧
      (t'.outcome = t.outcome ∧ (t.outcome = .pending → ∀ v, s.dispatched? e = some v →
          ¬(v.guid = t.guid ∧ t.accepts v = true)) ∨
        t.outcome = .pending ∧ (∃ v, t'.outcome = .done v ∧ s.dispatched? e = some v ∧
          v.guid = t.guid ∧ t.accepts v = true) ∨
        t.outcome = .pending ∧ ((∃ m r, e = .move m .go ∧
            s.callers[m]? = some (.abandon t.guid r) ∧ t'.outcome = .cancelled) ∨
          (s.step e).correlator.closed.isSome ∧ ∃ r, t'.outcome = .failed r)) := by
  obtain ⟨he, hd⟩ | ⟨a, ha, he⟩ := s.correlator_step e
  · exact ⟨t, he ▸ ht, .inl ⟨rfl, fun _ v hv ↦ by simp [hd] at hv⟩⟩
  have hk : (s.step e).correlator.ticket? k = (s.correlator.after a).ticket? k := by rw [he]
  by_cases hn : s.correlator.IsWaiting k
  · have hp := (h.mem ht hn).2
    obtain ⟨o, ho, -, ht'⟩ | ⟨rfl, -, ht'⟩ | ⟨ho, -, ht'⟩ := h.after_of_waiting ht hn a
    · refine ⟨_, hk.trans ht', .inr ?_⟩
      cases ha with
      | resolve hv =>
        simp only [Correlator.Act.outcome?] at ho
        split at ho
        · next hg => exact .inl ⟨hp, _, (Option.some_inj.1 ho).symm, hv, hg⟩
        · cases ho
      | discard hm =>
        obtain ⟨rfl, rfl⟩ : _ ∧ _ := by simpa [Correlator.Act.outcome?] using ho
        exact .inr ⟨hp, .inl ⟨_, _, rfl, hm, rfl⟩⟩
      | close | lose =>
        obtain rfl := Option.some_inj.1 ho
        refine .inr ⟨hp, .inr ⟨?_, _, rfl⟩⟩
        simp [he, Correlator.closed_after, Correlator.Act.closes?]
      | enroll | forget | restart => cases ho
    · refine ⟨t, hk.trans ht', .inl ⟨rfl, fun _ v hv ↦ ?_⟩⟩
      cases ha
      cases hv
    · refine ⟨_, hk.trans ht', .inl ⟨rfl, fun _ v hv hg ↦ ?_⟩⟩
      cases ha with
      | resolve hv' =>
        obtain rfl := Option.some_inj.1 (hv'.symm.trans hv)
        simp [Correlator.Act.outcome?, hg] at ho
      | enroll | discard | forget | restart | close | lose => cases hv
  · obtain ⟨-, ht'⟩ := h.after_of_not_waiting ht hn a
    exact ⟨_, hk.trans ht', .inl ⟨rfl, fun hp ↦ absurd (hw hp) hn⟩⟩

/-- What the responses `vs st` heard by caller `n` at each stage tell about its ticket. -/
structure Heard (n : Nat) (s : Session τ) (vs : Stage → List VerdictResponse) : Prop where
  quiet : ∀ {st}, NotYet n st s → vs st = []
  answered : ∀ {p j st k t}, s.callers[n]? = some p → Phase.hold? p = some (j, st, k) →
    s.correlator.ticket? k = some t →
    (t.outcome = .pending → (vs st).find? st.accepts = none) ∧
      ∀ v, t.outcome = .done v → (vs st).find? st.accepts = some v ∧ v.guid = j.request.guid

omit [Clock τ] in
theorem heard?_eq_of_hold {p : Phase τ} (hp : s.callers[n]? = some p)
    (hh : p.hold? = some (j, st, k)) (e : Event τ) :
    s.heard? n st e = (s.dispatched? e).filter (·.guid = j.request.guid) := by
  simp only [heard?, hp, Option.bind_some, hh]
  cases s.dispatched? e with
  | none => rfl
  | some v => simp [Option.filter]

variable {vs : Stage → List VerdictResponse}

theorem Heard.answered_of_hold (h : Heard n s vs) (hl : Ledger s os) {p : Phase τ} {t' : Ticket τ}
    (hp : s.callers[n]? = some p) (hh : p.hold? = some (j, st, k))
    (ht' : (s.step e).correlator.ticket? k = some t') :
    (t'.outcome = .pending → (vs st ++ (s.heard? n st e).toList).find? st.accepts = none) ∧
      ∀ v, t'.outcome = .done v →
        (vs st ++ (s.heard? n st e).toList).find? st.accepts = some v ∧ v.guid = j.request.guid := by
  obtain ⟨-, ⟨t, ht, hg, hf, hw⟩, -⟩ := hl.held hp hh
  obtain ⟨hpend, hdone⟩ := h.answered hp hh ht
  obtain ⟨t'', ht'', hcase⟩ := outcome_step hl.sound ht hw e
  obtain rfl : t'' = t' := Option.some_inj.1 (ht''.symm.trans ht')
  rw [heard?_eq_of_hold hp hh, List.find?_append]
  obtain ⟨ho, hnot⟩ | ⟨ho, v, hv, hd, hg', ha⟩ | ⟨-, hother⟩ := hcase
  · rw [ho]
    refine ⟨fun hp ↦ ?_, fun v hv ↦ ?_⟩
    · rw [hpend hp, Option.none_or]
      cases hd : s.dispatched? e with
      | none => rfl
      | some v =>
        have hv := hnot hp v hd
        rw [hg, accepts_of_finalOnly hf] at hv
        by_cases hvg : v.guid = j.request.guid
        · have ha : st.accepts v = false := Bool.eq_false_iff.2 fun ha ↦ hv ⟨hvg, ha⟩
          simp [hvg, ha]
        · simp [hvg]
    · obtain ⟨hfind, hvg⟩ := hdone v hv
      rw [hfind]
      exact ⟨rfl, hvg⟩
  · rw [hv, hpend ho, hd]
    rw [accepts_of_finalOnly hf] at ha
    refine ⟨fun hc ↦ (by cases hc), fun w hw ↦ ?_⟩
    obtain rfl : v = w := Future.done.inj hw
    simp [Option.filter, hg', hg, ha]
  · obtain ⟨m, r, -, -, ho⟩ | ⟨-, r, ho⟩ := hother <;> simp [ho]

theorem Heard.step (h : Heard n s vs) (hl : Ledger s os) (e : Event τ) :
    Heard n (s.step e) fun st ↦ vs st ++ (s.heard? n st e).toList where
  quiet hn := by
    have hs := hn.of_step
    rw [h.quiet hs, hs.heard?_eq]
    rfl
  answered {p' j st k t'} hp' hh ht' := by
    obtain ⟨hp, -⟩ | ⟨p, sig, rfl, ha, -, hp, hadv⟩ | ⟨a, -, -, rfl⟩ :=
      ask_step (Phase.isAsk_of_hold? hh) hp'
    · exact h.answered_of_hold hl hp hh ht'
    · obtain hh' | ⟨hr, rfl, c, hreg, hs⟩ := hadv.hold hh
      · exact h.answered_of_hold hl hp hh' ht'
      · -- A new ticket is unsettled, and nothing has been heard.
        obtain ⟨rfl, -, d, hcor⟩ := correlator_of_register hp hs hreg
        rw [hcor, ticket?_enroll] at ht'
        obtain rfl := Option.some_inj.1 ht'
        have hn : NotYet n st s := fun q hq ↦
          Option.some_inj.1 (hp.symm.trans hq) ▸ Phase.before_of_registers? hr
        simp [h.quiet hn, hn.heard?_eq]
    · cases hh

theorem heard_run (settings : Settings τ) (files : FileSystem) (n : Nat) (es : List (Event τ)) :
    Heard n ((start settings files).run es) fun st ↦ heard n st (start settings files) es := by
  induction es using List.reverseRecOn with
  | nil => exact ⟨fun _ ↦ rfl, fun hp ↦ by simp [start] at hp⟩
  | append_singleton es e ih =>
    simp only [heard, run_concat, observed_concat]
    exact ih.step (ledger_run settings files es) e

variable {settings : Settings τ} {files : FileSystem} {es : List (Event τ)}

omit [Clock τ] in
theorem heard?_move (m : Nat) (sig : Signal) : s.heard? n st (.move m sig) = none := by
  unfold heard?
  split
  · next hv => cases hv
  · rfl

omit [Clock τ] in
theorem find?_first (vs : List VerdictResponse) : vs.find? Stage.first.accepts = vs.head? := by
  cases vs with
  | nil => rfl
  | cons v vs => exact List.find?_cons_of_pos rfl

omit [Clock τ] in
theorem outcome_of_answer {t : Ticket τ} {v : VerdictResponse}
    (h : Correlator.answer? t = some (.ok v) ∨ Correlator.lateAnswer t = .ok v) :
    t.outcome = .done v := by
  unfold Correlator.answer? Correlator.lateAnswer at h
  cases ho : t.outcome <;> simp_all

/-- The first caller that asks after the opening makes its request. -/
theorem Sample.prepares_asking {settings : Settings Int} {query : Query} {guid : Text} {j : Job Int}
    (hlen : ((start settings .empty).run opening).callers.length = 1)
    (hj : (((start settings .empty).run
      (opening ++ [.call (.ask ⟨query, .text guid, none⟩)])).prepare ⟨query, .text guid, none⟩).1 =
        .ok j) (es : List (Event Int)) :
    Occurs (Prepares 1 ⟨query, .text guid, none⟩ j) (start settings .empty)
      (opening ++ asking 1 query guid ++ es) := by
  refine ⟨opening ++ [.call (.ask ⟨query, .text guid, none⟩)], .move 1 .go,
    [.move 1 .go, .move 1 .go] ++ es, by simp [asking], rfl, ?_, by exact hj⟩
  rw [run_concat]
  generalize (start settings .empty).run opening = s at hlen
  have hlast : (s.callers ++ [.ask ⟨query, .text guid, none⟩])[s.callers.length]? =
      some (.ask ⟨query, .text guid, none⟩) := List.getElem?_concat_length
  rw [hlen] at hlast
  exact hlast

end Session

end VerdictClient
