import VerdictClient.Proofs.Session.Calls
import VerdictClient.Session.Conversation

namespace VerdictClient.Session

variable {τ : Type} [Clock τ]

/-- The session can come so far without a new caller. -/
def Continues (s s' : Session τ) : Prop := ∃ es, calls es = [] ∧ s' = s.run es

variable {s s' s'' : Session τ} {e : Event τ}

theorem Continues.refl (s : Session τ) : Continues s s :=
  ⟨[], rfl, rfl⟩

theorem Continues.trans (h : Continues s s') (h' : Continues s' s'') : Continues s s'' := by
  obtain ⟨es, hes, rfl⟩ := h
  obtain ⟨fs, hfs, rfl⟩ := h'
  refine ⟨es ++ fs, ?_, (run_append s es fs).symm⟩
  rw [calls_append, hes, hfs, List.append_nil]

theorem Continues.step (he : e.call? = none) : Continues s (s.step e) := by
  refine ⟨[e], ?_, rfl⟩
  simp only [calls, List.filterMap_cons, he, List.filterMap_nil]

/-- What no event but a new call changes for the worse still holds as the session continues. -/
theorem Continues.induction {P : Session τ → Prop} (h : Continues s s') (hs : P s)
    (hstep : ∀ {s : Session τ} {e : Event τ}, e.call? = none → P s → P (s.step e)) : P s' := by
  obtain ⟨es, hes, rfl⟩ := h
  induction es generalizing s with
  | nil => exact hs
  | cons e es ih =>
    have he : e.call? = none := List.filterMap_eq_nil_iff.1 hes e List.mem_cons_self
    refine ih (hstep he hs) (calls_eq_nil fun e' he' ↦ ?_)
    exact List.filterMap_eq_nil_iff.1 hes e' (List.mem_cons_of_mem e he')

namespace Scene

variable {x y : Scene τ} {n : Nat}

theorem event?_cases (h : x.event? = some e) :
    (e = .reader ∧ ((∃ y, x.session.reader = .failWaiter y) ∨
      (∃ y, x.session.reader = .failRequests y) ∨ ∃ y, x.session.reader = .report y)) ∨
    (∃ f, e = .lost f ∧ x.session.reader = .reading) ∨
    ∃ n p sig, e = .move n sig ∧ x.phase? n = some p ∧ x.signal? n p = some sig := by
  unfold event? at h
  split at h
  · next y hread => exact .inl ⟨(Option.some_inj.1 h).symm, .inl ⟨y, hread⟩⟩
  · next y hread => exact .inl ⟨(Option.some_inj.1 h).symm, .inr (.inl ⟨y, hread⟩)⟩
  · next y hread => exact .inl ⟨(Option.some_inj.1 h).symm, .inr (.inr ⟨y, hread⟩)⟩
  · next f hread _ => exact .inr (.inl ⟨f, (Option.some_inj.1 h).symm, hread⟩)
  · obtain ⟨n, -, hn⟩ := List.exists_of_findSome?_eq_some h
    obtain ⟨p, hp, hsome⟩ := Option.bind_eq_some_iff.1 hn
    obtain ⟨sig, hsig, rfl⟩ := Option.map_eq_some_iff.1 hsome
    exact .inr (.inr ⟨n, p, sig, rfl, hp, hsig⟩)

theorem call?_of_event? (h : x.event? = some e) : e.call? = none := by
  obtain ⟨rfl, -⟩ | ⟨f, rfl, -⟩ | ⟨n, p, sig, rfl, -, -⟩ := event?_cases h <;> rfl

theorem session_after (e : Event τ) (x : Scene τ) : (x.after e).session = x.session.step e := rfl

theorem continues_settle (fuel : Nat) (x : Scene τ) : Continues x.session (x.settle fuel).session := by
  induction fuel generalizing x with
  | zero => exact .refl _
  | succ fuel ih =>
    unfold settle
    split
    · exact .refl _
    · next e he => exact (Continues.step (call?_of_event? he)).trans (ih (x.after e))

theorem continues_settled (x : Scene τ) : Continues x.session x.settled.session :=
  continues_settle _ x

theorem continues_happen (e : Event τ) (x : Scene τ) :
    Continues (x.session.step e) (x.happen e).session :=
  continues_settled (x.after e)

theorem happen_continues (he : e.call? = none) (x : Scene τ) : Continues x.session (x.happen e).session :=
  (Continues.step he).trans (continues_happen e x)

theorem continues_call (i : Invocation τ) (o : Option (Option Failure)) (x : Scene τ) :
    Continues (x.session.step (.call i)) (x.call i o).session :=
  continues_happen (.call i) _

theorem continues_deliver {f : Frame} (h : x.deliver f = some y) : Continues x.session y.session := by
  unfold deliver at h
  split at h
  · cases h
    exact happen_continues (e := .frame f) rfl x
  · cases h

theorem continues_finishUpload {o : Http.Outcome} (h : x.finishUpload n o = some y) :
    Continues x.session y.session := by
  unfold finishUpload at h
  split at h
  · cases h
    exact happen_continues (e := .move n (.answered o)) rfl x
  · cases h

theorem continues_moveTo (limit : τ) (fuel : Nat) (x : Scene τ) :
    Continues x.session (x.moveTo limit fuel).session := by
  induction fuel generalizing x with
  | zero => exact happen_continues (e := .clock limit) rfl x
  | succ fuel ih =>
    unfold moveTo
    split
    · exact happen_continues (e := .clock limit) rfl x
    · next n wake _ =>
      have hclock : Continues x.session (x.after (.clock wake)).session :=
        Continues.step (e := .clock wake) rfl
      have hstrike := happen_continues (e := .move n .struck) rfl (x.after (.clock wake))
      exact (hclock.trans hstrike).trans (ih _)

end Scene

namespace Conversation

variable {w : Service} {c c' : Conversation τ} {i : Invocation τ}

theorem continues_deliver (fs : List Frame) (x : Scene τ) :
    Continues x.session (deliver fs x).session := by
  induction fs generalizing x with
  | nil => exact .refl _
  | cons f fs ih =>
    have hfirst : Continues x.session ((x.deliver f).getD x).session := by
      cases h : x.deliver f with
      | none => exact .refl _
      | some y => exact Scene.continues_deliver h
    exact hfirst.trans (ih _)

theorem continues_outwait {x y : Scene τ} (h : outwait x = some y) : Continues x.session y.session := by
  obtain ⟨wake, -, rfl⟩ := Option.map_eq_some_iff.1 h
  exact Scene.continues_moveTo _ _ _

theorem continues_respond (h : c.respond w = some c') : Continues c.scene.session c'.scene.session := by
  unfold respond at h
  split at h
  · cases h
    exact continues_deliver _ _
  · split at h
    · dsimp only at h
      obtain ⟨y, hy, rfl⟩ := Option.map_eq_some_iff.1 h
      exact (continues_deliver _ _).trans (Scene.continues_finishUpload hy)
    · obtain ⟨y, hy, rfl⟩ := Option.map_eq_some_iff.1 h
      exact continues_outwait hy

theorem continues_respondFor (w : Service) (n : Nat) (c : Conversation τ) :
    Continues c.scene.session (c.respondFor w n).scene.session := by
  induction n generalizing c with
  | zero => exact .refl _
  | succ n ih =>
    unfold respondFor
    split
    · next c' h => exact (continues_respond h).trans (ih c')
    · exact .refl _

theorem continues_begin (w : Service) (i : Invocation τ) (c : Conversation τ) :
    Continues (c.scene.session.step (.call i)) (c.begin w i).scene.session :=
  Scene.continues_call i _ _

theorem continues_call (w : Service) (i : Invocation τ) (c : Conversation τ) :
    Continues (c.scene.session.step (.call i)) (c.call w i).2.scene.session :=
  (continues_begin w i c).trans (continues_respondFor w _ _)

end Conversation

end VerdictClient.Session
