import VerdictClient.Proofs.Session.Settling

namespace VerdictClient.Session

variable {τ : Type} [Clock τ]

namespace Scene

/-- Everyone who waits is noted, as is fitting after an event, and nobody is held back. -/
structure Tidy (x : Scene τ) : Prop where
  reached : Reached x.session
  released : x.holding = false ∧ x.held = []
  waits : ∀ {n : Nat}, n ∈ x.waiting → (x.phase? n).any Phase.isWait = true
  noted : ∀ {n : Nat}, x.isPending n = true → n ∈ x.waiting ∨ (x.phase? n).any x.isLate = true

/-- A tidy scene in which nothing happens by itself. -/
structure Calm (x : Scene τ) : Prop extends Tidy x where
  quiet : x.event? = none

variable {x y : Scene τ} {n m : Nat} {p : Phase τ} {sig : Signal} {e : Event τ}

theorem tidy_noted (hr : Reached x.session) (hh : x.holding = false ∧ x.held = []) :
    Tidy x.noted where
  reached := hr
  released := by
    refine ⟨hh.1, ?_⟩
    simp only [Scene.noted, hh.1, Bool.false_eq_true, if_false]
    exact hh.2
  waits := by
    intro n hn
    obtain hn | hn := List.mem_append.1 hn
    · exact (List.mem_filter.1 hn).2
    · have hfresh := (List.mem_filter.1 hn).2
      rw [Bool.and_eq_true, Bool.and_eq_true] at hfresh
      obtain ⟨p, hp, hw⟩ := (Option.any_eq_true _ _).1 hfresh.1.1
      rw [Bool.and_eq_true] at hw
      have hphase : x.noted.phase? n = some p := hp
      rw [hphase]
      exact hw.1
  noted := by
    intro n hn
    obtain ⟨p, hp, hw⟩ := (Option.any_eq_true _ _).1 hn
    rw [Bool.and_eq_true] at hw
    by_cases hlate : (x.phase? n).any x.isLate = true
    · exact .inr hlate
    · left
      by_cases hmem : n ∈ x.waiting
      · refine List.mem_append_left _ (List.mem_filter.2 ⟨hmem, ?_⟩)
        have hphase : x.phase? n = some p := hp
        rw [hphase]
        exact hw.1
      · have hlt : n < x.session.callers.length := (List.getElem?_eq_some_iff.1 hp).1
        have hpend : x.isPending n = true := hn
        refine List.mem_append_right _ (List.mem_filter.2 ⟨List.mem_range.2 hlt, ?_⟩)
        simp [hpend, hmem, hlate]

theorem Tidy.after (h : Tidy x) (e : Event τ) : Tidy (x.after e) :=
  tidy_noted (h.reached.step e) h.released

theorem Tidy.settle (h : Tidy x) (fuel : Nat) : Tidy (x.settle fuel) := by
  induction fuel generalizing x with
  | zero => exact h
  | succ fuel ih =>
    unfold Scene.settle
    split
    · exact h
    · exact ih (h.after _)

theorem Tidy.happen (h : Tidy x) (e : Event τ) : Calm (x.happen e) :=
  ⟨(h.after e).settle _, event?_happen h.reached e⟩

theorem Tidy.call (h : Tidy x) (i : Invocation τ) (o : Option (Option Failure)) :
    Calm (x.call i o) :=
  -- How openings end is nothing that the notes depend on.
  Tidy.happen (x := { x with
    openings := (o.map (x.session.callers.length, ·)).toList ++ x.openings })
    ⟨h.reached, h.released, h.waits, h.noted⟩ _

theorem Tidy.moveTo (h : Tidy x) (limit : τ) (fuel : Nat) : Calm (x.moveTo limit fuel) := by
  induction fuel generalizing x with
  | zero => exact h.happen _
  | succ fuel ih =>
    unfold Scene.moveTo
    split
    · exact h.happen _
    · exact ih ((h.after _).happen _).toTidy

theorem Calm.deliver {f : Frame} (h : Calm x) : Calm ((x.deliver f).getD x) := by
  unfold Scene.deliver
  split
  · exact h.toTidy.happen _
  · exact h

theorem Tidy.finishUpload {o : Http.Outcome} (h : Tidy x) (hy : x.finishUpload n o = some y) :
    Calm y := by
  unfold Scene.finishUpload at hy
  split at hy
  · cases hy
    exact h.happen _
  · cases hy

theorem Calm.signal? (h : Calm x) (hp : x.phase? n = some p) : x.signal? n p = none :=
  signal?_of_quiet h.quiet hp

omit [Clock τ] in
theorem isPending_of_isWait (hp : x.phase? n = some p) (hw : p.isWait = true)
    (hset : x.session.isSettled p = false) : x.isPending n = true := by
  simp only [Scene.isPending, hp, Option.any_some, hw, hset, Bool.not_false, Bool.and_self]

theorem Calm.of_isWait (h : Calm x) (hp : x.phase? n = some p) (hw : p.isWait = true) :
    x.session.isSettled p = false ∧ n ∈ x.waiting := by
  have hsig := h.signal? hp
  rw [signal?_wait hw, h.released.2, List.contains_nil, if_neg Bool.false_ne_true] at hsig
  split at hsig
  · cases hsig
  · next hset =>
    rw [Bool.or_eq_true, not_or, Bool.not_eq_true] at hset
    obtain ⟨hset, -⟩ := hset
    refine ⟨hset, ?_⟩
    obtain hmem | hlate := h.noted (isPending_of_isWait hp hw hset)
    · exact hmem
    · rw [hp, Option.any_some] at hlate
      by_contra hmem
      simp [hlate, hmem] at hsig

theorem Calm.isPending (h : Calm x) (hp : x.phase? n = some p) (hw : p.isWait = true) :
    x.isPending n = true :=
  isPending_of_isWait hp hw (h.of_isWait hp hw).1

def Uploads (n : Nat) (x : Scene τ) : Prop := ∃ j k t b, x.phase? n = some (.uploading j k t b)

theorem Uploads.after (h : Uploads n x) (he : ∀ sig, e ≠ .move n sig) : Uploads n (x.after e) := by
  obtain ⟨j, k, t, b, hp⟩ := h
  obtain ⟨hp', -⟩ | ⟨sig, hmove, -⟩ := callers_step hp e
  · exact ⟨j, k, t, b, hp'⟩
  · exact absurd hmove (he sig)

theorem Uploads.settle (h : Uploads n x) (fuel : Nat) : Uploads n (x.settle fuel) := by
  induction fuel generalizing x with
  | zero => exact h
  | succ fuel ih =>
    unfold Scene.settle
    split
    · exact h
    · next e he =>
      apply ih
      apply h.after
      rintro sig rfl
      -- A caller that uploads has no signal to move with.
      obtain ⟨j, k, t, b, hp⟩ := h
      obtain ⟨hmove, -⟩ | ⟨f, hmove, -⟩ | ⟨m, p, sig', hmove, hq, hsig⟩ := event?_cases he
      · cases hmove
      · cases hmove
      · obtain ⟨rfl, rfl⟩ := Event.move.inj hmove
        obtain rfl := Option.some_inj.1 (hp.symm.trans hq)
        cases hsig

theorem Uploads.deliver {f : Frame} (h : Uploads n x) : Uploads n ((x.deliver f).getD x) := by
  unfold Scene.deliver
  split
  · exact (h.after (e := .frame f) (by simp)).settle _
  · exact h

end Scene

end VerdictClient.Session
