import VerdictClient.Proofs.Session.Connection

namespace VerdictClient.Session

variable {τ : Type} [Clock τ]

/-- The connection that caller `n` opens is delivered to a session that is closed by then. -/
def DeliversLate (n : Nat) (s : Session τ) (e : Event τ) : Prop :=
  s.state = .closed ∧ ∃ x o t, e = .move n (.opened o) ∧ s.callers[n]? = some (.opening x) ∧
    Transport.openResult s.settings.url o = .ok t

/-- The caller has a connection that comes late, and `k` steps left: to notice that the session is
closed, and to close the connection and raise an error. -/
inductive Phase.IsLate : Nat → Phase τ → Prop
  | install (x : Value) : IsLate 2 (.install x)
  | leave : IsLate 1 (.leave (.closed .duringConnect))
  | ended : IsLate 0 (.ended (.error (.closed .duringConnect)))

def lateConnection : Nat → Transport
  | 0 => ⟨true, [], 1⟩
  | _ + 1 => ⟨false, [], 0⟩

/-- Caller `n`, with `k` steps left, has a connection that is not the one of the session. -/
structure Late (n k : Nat) (s : Session τ) : Prop where
  closed : s.state = .closed
  apart : s.installed = false
  connection : s.connection = some (lateConnection k)
  caller : ∃ p, s.callers[n]? = some p ∧ p.IsLate k

variable {s : Session τ} {n k k' : Nat} {p p' : Phase τ} {sig : Signal} {e : Event τ}

omit [Clock τ] in
theorem opened_of_openResult {url : Value} {o : Option Failure} {t : Transport}
    (h : Transport.openResult url o = .ok t) : t = lateConnection 2 := by
  unfold Transport.openResult at h
  split at h
  · exact (Except.ok.inj h).symm
  · split at h <;> cases h

theorem DeliversLate.late (h : DeliversLate n s e) (hi : s.installed = false) :
    Late n 2 (s.step e) := by
  obtain ⟨hs, x, o, t, rfl, hp, ht⟩ := h
  have hstep : s.step (.move n (.opened o)) = { s with
      connection := some t, log := s.log ++ [Transport.openedLine s.settings.url],
      callers := s.callers.set n (.install x) } := by
    rw [step_move hp]
    simp only [moved, openingStep, ht]
  have hn : (s.callers.set n (.install x))[n]? = some (.install x) :=
    List.getElem?_set_self (List.getElem?_eq_some_iff.1 hp).1
  rw [hstep]
  exact ⟨hs, hi, congrArg some (opened_of_openResult ht), _, hn, .install x⟩

theorem Late.of_moved (h : Late n k s) (hp : s.callers[n]? = some p)
    (hm : s.moved n p sig = (p', { s with connection := some (lateConnection k') }))
    (hp' : p'.IsLate k') : Late n k' (s.step (.move n sig)) := by
  have hn : (s.step (.move n sig)).callers[n]? = some p' := by
    rw [caller_move hp, hm]
  refine ⟨?_, ?_, ?_, p', hn, hp'⟩
  · rw [step_move hp, hm]
    exact h.closed
  · rw [step_move hp, hm]
    exact h.apart
  · rw [step_move hp, hm]

theorem Late.go (h : Late n k s) : Late n (k - 1) (s.step (.move n .go)) := by
  obtain ⟨p, hp, hl⟩ := h.caller
  have hconn := h.connection
  cases hl with
  | install x =>
    have hm : s.moved n (.install x) .go = (.leave (.closed .duringConnect), s) := by
      simp only [moved, installStep, h.closed, if_true]
    refine h.of_moved hp ?_ .leave
    rw [hm, show lateConnection 1 = lateConnection 2 from rfl, ← hconn]
  | leave =>
    have hc : s.connection.map Transport.close = some (lateConnection 0) := by
      rw [hconn]
      rfl
    refine h.of_moved hp ?_ .ended
    rw [← hc]
    rfl
  | ended =>
    refine h.of_moved hp ?_ .ended
    rw [← hconn]
    rfl

theorem Late.halt (h : Late n k s) (hs : sig ≠ .go) : Late n k (s.step (.move n sig)) := by
  obtain ⟨p, hp, hl⟩ := h.caller
  have hconn := h.connection
  have hself : s.moved n p sig = (p, { s with connection := some (lateConnection k) }) := by
    rw [← hconn]
    cases hl <;> cases sig <;> first | exact absurd rfl hs | rfl
  exact h.of_moved hp hself hl

variable {settings : Settings τ} {files : FileSystem} {es : List (Event τ)}

theorem Late.others (h : Late n k ((start settings files).run es))
    (hat : Occurs (Attempts n) (start settings files) es) (hn : ∀ sig, e ≠ .move n sig) :
    Late n k (((start settings files).run es).step e) := by
  have hatt := attached_run settings files es
  have hconn : (((start settings files).run es).step e).connection =
      ((start settings files).run es).connection := by
    obtain hc | ⟨m, p, sig, rfl, hp, htouch⟩ | ⟨f, rfl, hread⟩ :=
      connection_step ((start settings files).run es) e
    · exact hc
    · have hother (ha : p.IsAttempt) : False := by
        obtain rfl : m = n := attempts_unique (attempts_of_isAttempt hp ha) hat
        exact hn sig rfl
      obtain ha | ho | ⟨r, rfl⟩ := htouch.cases
      · cases h.apart.symm.trans (hatt.needed hp ha)
      · exact (hother ho.isAttempt).elim
      · exact (hother (.inr ⟨r, rfl⟩)).elim
    · have hi := hatt.reading (by rw [hread]; simp)
      cases h.apart.symm.trans hi
  have hinst : (((start settings files).run es).step e).installed = false := by
    obtain hi | ⟨hs, -⟩ := installed_step ((start settings files).run es) e
    · exact hi.trans h.apart
    · exact absurd h.closed hs
  obtain ⟨p, hp, hl⟩ := h.caller
  obtain ⟨hp', -⟩ | ⟨sig, he, -⟩ := callers_step hp e
  · exact ⟨closed_step h.closed e, hinst, hconn.trans h.connection, p, hp', hl⟩
  · exact absurd he (hn sig)

theorem Late.run (h : Late n k ((start settings files).run es))
    (hat : Occurs (Attempts n) (start settings files) es) (fs : List (Event τ)) :
    Occurs (Attempts n) (start settings files) (es ++ fs) ∧
      ∃ k' ≤ k, Late n k' ((start settings files).run (es ++ fs)) := by
  induction fs using List.reverseRecOn with
  | nil =>
    rw [List.append_nil]
    exact ⟨hat, k, Nat.le_refl k, h⟩
  | append_singleton fs e ih =>
    obtain ⟨hat, k', hk, hl⟩ := ih
    rw [← List.append_assoc, run_concat]
    refine ⟨hat.concat e, ?_⟩
    by_cases hn : ∃ sig, e = .move n sig
    · obtain ⟨sig, rfl⟩ := hn
      by_cases hs : sig = .go
      · subst hs
        exact ⟨k' - 1, by omega, hl.go⟩
      · exact ⟨k', hk, hl.halt hs⟩
    · exact ⟨k', hk, hl.others hat fun sig he ↦ hn ⟨sig, he⟩⟩

theorem late_run (h : Occurs (DeliversLate n) (start settings files) es) :
    Occurs (Attempts n) (start settings files) es ∧
      ∃ k ≤ 2, Late n k ((start settings files).run es) := by
  obtain ⟨es₁, e, es₂, rfl, hd⟩ := h
  have hatt := attached_run settings files es₁
  obtain ⟨-, x, o, t, -, hp, -⟩ := id hd
  have hat := attempts_of_isAttempt hp (.inl trivial)
  have hi : ((start settings files).run es₁).installed = false := by
    -- A caller that still opens a connection is the only one that could have installed one.
    by_contra hi
    exact (hatt.alone (by simpa using hi)).2 n _ hp trivial
  have hl : Late n 2 ((start settings files).run (es₁ ++ [e])) := by
    rw [run_concat]
    exact hd.late hi
  have hrun := hl.run (hat.concat e) es₂
  rwa [List.append_assoc] at hrun

/-- Two steps of its own after a late delivery, whatever happens before, between and after them, the
caller has closed the connection, on which nothing was written. -/
theorem late_closes (h : Occurs (DeliversLate n) (start settings files) es) (fs gs : List (Event τ)) :
    Late n 0 ((start settings files).run
      (es ++ fs ++ [.move n .go] ++ gs ++ [.move n .go])) := by
  obtain ⟨hat, k, hk, hl⟩ := late_run h
  obtain ⟨hat, k, hk, hl⟩ : _ ∧ ∃ k ≤ 2, _ := by
    obtain ⟨hat, k', hk', hl⟩ := hl.run hat fs
    exact ⟨hat, k', Nat.le_trans hk' hk, hl⟩
  have hl : Late n (k - 1) ((start settings files).run (es ++ fs ++ [.move n .go])) := by
    rw [run_concat]
    exact hl.go
  obtain ⟨-, k', hk', hl⟩ := hl.run (hat.concat _) gs
  rw [run_concat]
  have hend := hl.go
  rwa [show k' - 1 = 0 by omega] at hend

omit [Clock τ] in
theorem Late.connection_cases (h : Late n k s) : (∃ t, s.connection = some t ∧ t.taken = []) ∧
    ∀ r, s.callers[n]? = some (.ended r) →
      r = .error (.closed .duringConnect) ∧ s.connection = some ⟨true, [], 1⟩ := by
  obtain ⟨p, hp, hl⟩ := h.caller
  have hconn := h.connection
  refine ⟨⟨_, hconn, by cases k <;> rfl⟩, fun r hr ↦ ?_⟩
  obtain rfl : p = .ended r := Option.some_inj.1 (hp.symm.trans hr)
  cases hl with
  | ended => exact ⟨rfl, hconn⟩

/-- In every step the state changes in one of four ways or not at all. A closed session stays closed,
and a failed one fails for ever or is closed. There is no id before the step that makes the session an
authenticated one; that step alone writes an id that is not empty, and it stays. One attempt to open a
connection is made at most. A connection that is delivered to a closed session has nothing written on
it, and the caller that opened it closes it in two steps before it ends with an error. -/
theorem lifecycle (settings : Settings τ) (files : FileSystem) (es : List (Event τ)) :
    (∀ e, ((start settings files).run (es ++ [e])).state = ((start settings files).run es).state ∨
      SessionState.Next ((start settings files).run es).state
        ((start settings files).run (es ++ [e])).state) ∧
    (∀ fs, (((start settings files).run es).state = .closed →
        ((start settings files).run (es ++ fs)).state = .closed) ∧
      (((start settings files).run es).state = .failed →
        ((start settings files).run (es ++ fs)).state = .failed ∨
          ((start settings files).run (es ++ fs)).state = .closed)) ∧
    (((start settings files).run es).sessionId = none ↔
      ¬Occurs Enters (start settings files) es) ∧
    (∀ e, ((start settings files).run (es ++ [e])).sessionId ≠
        ((start settings files).run es).sessionId →
      Enters ((start settings files).run es) e ∧ ((start settings files).run es).state = .connecting ∧
        ((start settings files).run es).sessionId = none ∧
        ∃ id, id ≠ [] ∧ ((start settings files).run (es ++ [e])).sessionId = some id) ∧
    (∀ id fs, ((start settings files).run es).sessionId = some id →
      ((start settings files).run (es ++ fs)).sessionId = some id) ∧
    ((start settings files).run es).openings.length ≤ 1 ∧
    (∀ n, Occurs (DeliversLate n) (start settings files) es →
      (∃ t, ((start settings files).run es).connection = some t ∧ t.taken = []) ∧
      (∀ r, ((start settings files).run es).callers[n]? = some (.ended r) →
        r = .error (.closed .duringConnect) ∧
          ((start settings files).run es).connection = some ⟨true, [], 1⟩) ∧
      ∀ fs gs, ∃ r, ((start settings files).run
        (es ++ fs ++ [.move n .go] ++ gs ++ [.move n .go])).callers[n]? = some (.ended r)) := by
  obtain ⟨hbefore, hafter⟩ := entered_run settings files es
  have hid : ((start settings files).run es).sessionId = none ↔
      ¬Occurs Enters (start settings files) es := by
    refine ⟨fun hnone he ↦ ?_, fun hne ↦ (hbefore hne).1⟩
    obtain ⟨-, id, -, hsome⟩ := hafter he
    cases hnone.symm.trans hsome
  refine ⟨fun e ↦ ?_, fun fs ↦ ?_, hid, fun e hne ↦ ?_, fun id fs hsome ↦ sessionId_stays hsome fs,
    (openings_run settings files es).2, fun n hd ↦ ?_⟩
  · rw [run_concat]
    exact state_step _ e
  · rw [run_append]
    exact ⟨fun hc ↦ closed_run hc fs, fun hf ↦ failed_run hf fs⟩
  · rw [run_concat] at hne ⊢
    obtain ⟨hkeep, -⟩ | ⟨he, hc, r, id, hg, hsome⟩ := sessionId_step ((start settings files).run es) e
    · exact absurd hkeep hne
    · -- A session that is connecting has not entered before.
      have hnone : ((start settings files).run es).sessionId = none := by
        rw [hid]
        intro hent
        obtain ⟨hs | hs, -⟩ := hafter hent <;> cases hs.symm.trans hc
      exact ⟨he, hc, hnone, id, grantedId?_ne_nil hg, hsome⟩
  · obtain ⟨-, k, -, hl⟩ := late_run hd
    obtain ⟨hconn, hend⟩ := hl.connection_cases
    refine ⟨hconn, hend, fun fs gs ↦ ?_⟩
    obtain ⟨p, hp, hlate⟩ := (late_closes hd fs gs).caller
    cases hlate with
    | ended => exact ⟨_, hp⟩

def Sample.late : List (Event Int) :=
  [.call (.connect (.text "t")), .move 0 .go, .call .close, .move 1 .go, .move 0 (.opened none)]

theorem Sample.late_delivers : Occurs (DeliversLate 0) (start Sample.settings .empty) Sample.late :=
  ⟨[.call (.connect (.text "t")), .move 0 .go, .call .close, .move 1 .go], .move 0 (.opened none), [],
    rfl, rfl, _, _, _, rfl, rfl, rfl⟩

theorem lifecycle_late :
    ((start Sample.settings .empty).run (Sample.late ++ [.move 0 .go, .move 0 .go])).connection =
      some ⟨true, [], 1⟩ := by
  have hd : Occurs (DeliversLate 0) (start Sample.settings .empty)
      (Sample.late ++ [.move 0 .go, .move 0 .go]) :=
    Sample.late_delivers.append _
  have hall := lifecycle Sample.settings .empty (Sample.late ++ [.move 0 .go, .move 0 .go])
  obtain ⟨-, -, -, -, -, -, hlate⟩ := hall
  exact ((hlate 0 hd).2.1 _ rfl).2

end VerdictClient.Session
