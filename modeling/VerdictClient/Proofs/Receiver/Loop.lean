import Mathlib.Data.List.Induction
import VerdictClient.Proofs.Receiver
import VerdictClient.Receiver.Loop

namespace VerdictClient

namespace Correlator

variable {τ : Type} {c : Correlator τ}

/-- Every unsettled ticket is on the map. -/
def Listed (c : Correlator τ) : Prop :=
  ∀ n t, c.ticket? n = some t → t.outcome = .pending → c.IsWaiting n

theorem Listed.after (h : c.Listed) (hs : c.Sound) {a : Act τ} (ha : ∀ n, a ≠ .forget n) :
    (c.after a).Listed := by
  intro n t ht ho
  by_cases hn : n < c.tickets.length
  · obtain ⟨u, hu⟩ : ∃ u, c.ticket? n = some u := ⟨_, List.getElem?_eq_getElem hn⟩
    by_cases hw : c.IsWaiting n
    · obtain ⟨o, hout, -, ht'⟩ | ⟨he, -⟩ | ⟨-, hw', -⟩ := hs.after_of_waiting hu hw a
      · obtain rfl := Option.some_inj.1 (ht'.symm.trans ht)
        have hout : a.outcome? u = some .pending := ho ▸ hout
        exact absurd hout Act.outcome?_ne_pending
      · exact absurd he (ha n)
      · exact hw'
    · obtain ⟨-, ht'⟩ := hs.after_of_not_waiting hu hw a
      obtain rfl := Option.some_inj.1 (ht'.symm.trans ht)
      exact absurd (h n u hu ho) hw
  · have hlt := (List.getElem?_eq_some_iff.1 ht).1
    rw [length_after] at hlt
    cases a with
    | enroll g d fo =>
      have hlast : n = c.tickets.length := by
        simp only [Act.enrolls, Bool.toNat_true] at hlt
        omega
      exact ⟨g, hlast ▸ List.mem_append_right _ (List.mem_singleton.2 rfl)⟩
    | resolve | discard | failAll | restart | forget => exact absurd hlt hn

theorem Listed.ticket?_failAll (h : c.Listed) (cause : ClosedCause) (n : Nat) :
    (c.failAll cause).ticket? n = (c.ticket? n).map (Ticket.settle (.failed (.closed cause))) := by
  rw [Correlator.ticket?_failAll]
  refine Option.map_congr fun t ht ↦ ?_
  split
  · rfl
  · next hn =>
    have ho : t.outcome ≠ .pending := by
      intro ho
      obtain ⟨g, hg⟩ := h n t ht ho
      exact hn (List.mem_map.2 ⟨_, hg, rfl⟩)
    exact (Ticket.settle_of_ne_pending ho _).symm

end Correlator

namespace Receiver

variable {τ : Type}

def Event.isExpectAuth : Event τ → Bool
  | .expectAuth => true
  | _ => false

namespace Loop

/-- How an event ends the loop: with which error, and the receiver that is left then. -/
inductive Ends (l : Loop τ) : Event τ → Error → Receiver τ → Prop
  | failure (f : Failure) : Ends l (.failure f) (.ofFailure f) l.receiver
  | smother {f c} (h : Smothers f l.receiver) :
      Ends l (.frame f) (.tooDeep c) { l.receiver with expecting := none }

structure Running (announced : Nat) (l : Loop τ) : Prop where
  ended : l.ended = false
  reports : l.reports = []
  waits : Waits False l.receiver
  length : l.receiver.waiters.length = announced
  sound : l.receiver.correlator.Sound
  listed : l.receiver.correlator.Listed
  closed : l.receiver.correlator.closed = none

variable {l l' : Loop τ} {n m : Nat} {e : Event τ} {x : Error} {r : Receiver τ}

theorem running_start : Running 0 (start : Loop τ) :=
  ⟨rfl, rfl, waits_empty, rfl, Correlator.sound_empty, fun _ _ ht ↦ (by cases ht), rfl⟩

theorem Running.withReceiver (h : Running n l) (hw : Waits False r)
    (hc : r.correlator = l.receiver.correlator) (hl : r.waiters.length = m) :
    Running m { l with receiver := r } :=
  ⟨h.ended, h.reports, hw, hl, hc ▸ h.sound, hc ▸ h.listed, hc ▸ h.closed⟩

theorem Running.after (h : Running n l) {a : Correlator.Act τ}
    (ha : a.IsAllowed l.receiver.correlator) (hf : ∀ k, a ≠ .forget k) (hc : a.closes? = none) :
    Running n (l.withCorrelator (l.receiver.correlator.after a)) where
  ended := h.ended
  reports := h.reports
  waits := h.waits.change (.keep rfl rfl)
  length := h.length
  sound := h.sound.after ha
  listed := h.listed.after h.sound hf
  closed := by
    have hcl : (l.receiver.correlator.after a).closed = none := by
      rw [Correlator.closed_after, h.closed, hc]
      rfl
    exact hcl

theorem correlator_route (f : Frame) (r : Receiver τ) :
    (r.route f).correlator = r.correlator ∨
      ∃ v, (r.route f).correlator = r.correlator.after (.resolve v.guid v) := by
  unfold route
  split
  · next v _ => exact .inr ⟨v, rfl⟩
  · exact .inl rfl
  · exact .inl rfl

theorem correlator_dispatch (f : Frame) (r : Receiver τ) :
    (r.dispatch f).2.correlator = r.correlator ∨
      ∃ v, (r.dispatch f).2.correlator = r.correlator.after (.resolve v.guid v) := by
  unfold dispatch takeAnswer settleWaiter
  split
  · left
    split
    · split <;> rfl
    · rfl
  · exact correlator_route f r

theorem Running.read (h : Running n l) (f : Frame) :
    Running n (l.read f) ∨ ∃ x r, Ends l (.frame f) x r ∧ l.read f = l.finish x r := by
  obtain ⟨r, hd, hchange, -⟩ | ⟨c, hs, hd⟩ := l.receiver.dispatch_cases f
  · left
    have hread : l.read f = { l with receiver := r } := by simp only [Loop.read, hd]
    have hw : Waits False r := h.waits.change hchange
    have hl : r.waiters.length = n := hchange.length_eq.trans h.length
    rw [hread]
    obtain hc | ⟨v, hc⟩ := correlator_dispatch f l.receiver <;> rw [hd] at hc
    · exact h.withReceiver hw hc hl
    · have ha : Running n (l.withCorrelator (l.receiver.correlator.after (.resolve v.guid v))) :=
        h.after trivial (by simp) rfl
      exact ⟨h.ended, h.reports, hw, hl, hc ▸ ha.sound, hc ▸ ha.listed, hc ▸ ha.closed⟩
  · exact .inr ⟨.tooDeep c, _, .smother hs, by simp only [Loop.read, hd]⟩

variable [Clock τ]

theorem Running.step (h : Running n l) (now : τ) (e : Event τ)
    (he : e.isExpectAuth = true → n = 0) :
    Running (n + e.isExpectAuth.toNat) (step now l e) ∨
      ∃ x r, Ends l e x r ∧ step now l e = l.finish x r := by
  have hstep : Loop.step now l e = (l.perform now e).2 := by
    simp only [Loop.step, h.ended, Bool.false_eq_true, if_false]
  rw [hstep]
  cases e with
  | frame f => exact h.read f
  | failure f => exact .inr ⟨_, _, .failure f, rfl⟩
  | expectAuth =>
    have hnil : l.receiver.waiters = [] := List.length_eq_zero_iff.1 (h.length.trans (he rfl))
    refine .inl (h.withReceiver (h.waits.expect (by simp [hnil])) rfl ?_)
    simp [h.length, Event.isExpectAuth]
  | cancelAuth =>
    have hc := l.receiver.change_cancelAuth
    refine .inl (h.withReceiver (h.waits.change hc) ?_ (hc.length_eq.trans h.length))
    simp only [cancelAuth, settleWaiter]
    split <;> rfl
  | register g timeout fo =>
    simp only [perform]
    split
    · next k c hr =>
      obtain ⟨-, hg, -, d, -, rfl⟩ := Correlator.register_eq_ok_iff.1 hr
      have ha : (Correlator.Act.enroll g d fo).IsAllowed l.receiver.correlator := ⟨h.closed, hg⟩
      exact .inl (h.after ha (by simp) rfl)
    · exact .inl h
  | discard g =>
    have ha : (Correlator.Act.discard g).IsAllowed l.receiver.correlator := trivial
    exact .inl (h.after ha (by simp) rfl)

theorem run_append (now : τ) (l : Loop τ) (es fs : List (Event τ)) :
    l.run now (es ++ fs) = (l.run now es).run now fs := by
  simp only [run, List.foldl_append]

theorem run_concat (now : τ) (l : Loop τ) (es : List (Event τ)) (e : Event τ) :
    l.run now (es ++ [e]) = step now (l.run now es) e := by
  rw [run_append]
  rfl

/-- A loop has not ended, or one of the events has ended it and those after that did nothing. -/
theorem running_or_ended (now : τ) (es : List (Event τ))
    (h : es.countP Event.isExpectAuth ≤ 1) :
    Running (es.countP Event.isExpectAuth) (start.run now es) ∨
      ∃ es₁ e es₂ n x r, es = es₁ ++ e :: es₂ ∧ n ≤ 1 ∧ Running n (start.run now es₁) ∧
        Ends (start.run now es₁) e x r ∧ start.run now es = (start.run now es₁).finish x r := by
  induction es using List.reverseRecOn with
  | nil => exact .inl running_start
  | append_singleton es e ih =>
    rw [List.countP_append, List.countP_singleton] at h
    rw [run_concat]
    obtain hrun | ⟨es₁, e', es₂, n, x, r, rfl, hn, hrun, hends, heq⟩ := ih (by omega)
    · have hfirst (he : e.isExpectAuth = true) : es.countP Event.isExpectAuth = 0 := by
        rw [if_pos he] at h
        omega
      obtain hnext | ⟨x, r, hends, heq⟩ := hrun.step now e hfirst
      · left
        rw [List.countP_append, List.countP_singleton]
        cases he : e.isExpectAuth <;> simpa [he] using hnext
      · exact .inr ⟨es, e, [], _, x, r, rfl, by omega, hrun, hends, heq⟩
    · refine .inr ⟨es₁, e', es₂ ++ [e], n, x, r, by simp, hn, hrun, hends, ?_⟩
      rw [heq]
      simp [step, finish]

omit [Clock τ] in
theorem correlator_finish (h : Ends l e x r) : (l.finish x r).receiver.correlator =
    l.receiver.correlator.failAll (closingCause x) := by
  have hr : r.correlator = l.receiver.correlator := by cases h <;> rfl
  have hc : ((r.noteEnd x).failWaiter (closingCause x)).correlator = l.receiver.correlator :=
    (correlator_settleWaiter _ _).trans ((r.noteEnd_frame x).2.2.trans hr)
  simp only [finish, shutDown, failRequests, hc]

omit [Clock τ] in
theorem Running.waiters_finish (h : Running n l) (hn : n ≤ 1) (he : Ends l e x r) :
    ∀ o ∈ (l.finish x r).receiver.waiters, o.IsTold ∧
      (o = .pending ↔ ∃ f, e = .frame f ∧ Smothers f l.receiver) := by
  intro o ho
  have hw : (l.finish x r).receiver.waiters =
      ((r.noteEnd x).failWaiter (closingCause x)).waiters := rfl
  obtain ⟨hnw, hne, -⟩ := r.noteEnd_frame x
  rw [hw] at ho
  cases he with
  | failure f =>
    have hwaits : Waits False (l.receiver.noteEnd (.ofFailure f)) :=
      h.waits.change (.keep hnw hne)
    rw [failWaiter, hwaits.waiters_settleWaiter] at ho
    obtain ⟨u, hu, rfl⟩ := List.mem_map.1 ho
    refine ⟨isTold_settle (.inr ⟨_, rfl⟩) (hwaits.told u hu), fun hp ↦ ?_, fun ⟨f', hf, _⟩ ↦ ?_⟩
    · cases u <;> cases hp
    · cases hf
  | @smother f c hs =>
    -- The one waiter expects the frame, so it is still unsettled.
    have hsame : (((({ l.receiver with expecting := none } : Receiver τ).noteEnd (.tooDeep c)).failWaiter
        (closingCause (.tooDeep c))).waiters) = l.receiver.waiters := rfl
    rw [hsame] at ho
    obtain ⟨w, hr⟩ := Option.isSome_iff_exists.1 hs.1
    have hpend := h.waits.expected w hr
    obtain ⟨v, hv⟩ := List.mem_iff_getElem?.1 ho
    have hv0 : v = w := by
      have hlen := h.length
      have hlv := (List.getElem?_eq_some_iff.1 hv).1
      have hlw := (List.getElem?_eq_some_iff.1 hpend).1
      omega
    obtain rfl : o = .pending := by
      rw [hv0] at hv
      exact Option.some_inj.1 (hv.symm.trans hpend)
    exact ⟨trivial, fun _ ↦ ⟨f, rfl, hs⟩, fun _ ↦ rfl⟩

/-- A loop that has ended was ended by one of its events. All that was pending then has failed with the
error that its owner was told, once; nothing is registered any more; and the waiter is settled, unless
the event is the frame that it expected, nesting too deep. -/
theorem ended_run (now : τ) (es : List (Event τ)) (hes : es.countP Event.isExpectAuth ≤ 1)
    (hend : (start.run now es).ended = true) :
    ∃ es₁ e es₂ c, es = es₁ ++ e :: es₂ ∧ (start.run now es₁).ended = false ∧
      (start.run now es).reports = [c] ∧
      (start.run now es).receiver.correlator.pending = [] ∧
      (∀ moment g timeout fo, (start.run now es).receiver.correlator.register moment g timeout fo =
        .error (.closed c)) ∧
      (∀ k, (start.run now es).receiver.correlator.ticket? k =
        ((start.run now es₁).receiver.correlator.ticket? k).map
          (Ticket.settle (.failed (.closed c)))) ∧
      ∀ o ∈ (start.run now es).receiver.waiters, o.IsTold ∧
        (o = .pending ↔ ∃ f, e = .frame f ∧ Smothers f (start.run now es₁).receiver) := by
  obtain hrun | ⟨es₁, e, es₂, n, x, r, rfl, hn, hrun, hends, heq⟩ := running_or_ended now es hes
  · cases hrun.ended.symm.trans hend
  · have hcor := correlator_finish hends
    refine ⟨es₁, e, es₂, closingCause x, rfl, hrun.ended, ?_, ?_, fun moment g timeout fo ↦ ?_,
      fun k ↦ ?_, ?_⟩
    · simp [heq, finish, hrun.reports]
    · rw [heq, hcor]
      rfl
    · simp only [heq, hcor, Correlator.register, Correlator.failAll, hrun.closed, Option.none_or]
    · rw [heq, hcor, hrun.listed.ticket?_failAll]
    · rw [heq]
      exact hrun.waiters_finish hn hends

end Loop

end Receiver

end VerdictClient
