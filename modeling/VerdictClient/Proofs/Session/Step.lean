import VerdictClient.Proofs.Session.Manage
import VerdictClient.Proofs.Session.Run

namespace VerdictClient.Session

variable {τ : Type} [Clock τ]

theorem callers_moved (n : Nat) (s : Session τ) (p : Phase τ) (sig : Signal) :
    (s.moved n p sig).2.callers = s.callers := by
  by_cases hp : p.IsAsk
  · by_cases hs : p.Takes sig
    · obtain ⟨t, c, k, ps, ls, he⟩ := (advance_moved n s hp hs).eq_with
      rw [he]
    · rw [moved_of_not_takes n s hp hs]
  · exact (manage_moved n s sig hp).callers

theorem step_move {n : Nat} {s : Session τ} {p : Phase τ} (hp : s.callers[n]? = some p) (sig : Signal) :
    s.step (.move n sig) =
      { (s.moved n p sig).2 with callers := s.callers.set n (s.moved n p sig).1 } := by
  simp only [step, move, hp, callers_moved]

theorem step_move_of_none {n : Nat} {s : Session τ} (hn : s.callers[n]? = none) (sig : Signal) :
    s.step (.move n sig) = s := by
  simp only [step, move, hn]

theorem step_move_of_not_takes {n : Nat} {s : Session τ} {p : Phase τ} {sig : Signal}
    (hp : s.callers[n]? = some p) (ha : p.IsAsk) (hs : ¬p.Takes sig) : s.step (.move n sig) = s := by
  obtain ⟨hn, rfl⟩ := List.getElem?_eq_some_iff.1 hp
  rw [step_move hp, moved_of_not_takes n s ha hs, List.set_getElem_self]

theorem callers_step_move {n m : Nat} {s : Session τ} {sig : Signal} :
    (s.step (.move n sig)).callers[m]? =
      if n = m then (s.callers[n]?).map fun p ↦ (s.moved n p sig).1 else s.callers[m]? := by
  cases hp : s.callers[n]? with
  | none =>
    rw [step_move_of_none hp]
    split
    · next h => rw [← h, hp]; rfl
    · rfl
  | some p =>
    rw [step_move hp, List.getElem?_set]
    have hlt := (List.getElem?_eq_some_iff.1 hp).1
    simp [hlt]

theorem caller_move {n : Nat} {s : Session τ} {p : Phase τ} (hp : s.callers[n]? = some p)
    (sig : Signal) : (s.step (.move n sig)).callers[n]? = some (s.moved n p sig).1 := by
  rw [callers_step_move, if_pos rfl, hp, Option.map_some]

theorem caller_others {n m : Nat} {s : Session τ} (h : n ≠ m) (sig : Signal) :
    (s.step (.move n sig)).callers[m]? = s.callers[m]? := by
  rw [callers_step_move, if_neg h]

theorem callers_step_of_not_move {s : Session τ} {e : Event τ} (hc : ∀ i, e ≠ .call i)
    (hm : ∀ n sig, e ≠ .move n sig) : (s.step e).callers = s.callers := by
  cases e with
  | call i => exact absurd rfl (hc i)
  | move n sig => exact absurd rfl (hm n sig)
  | frame f =>
    simp only [step, frameStep]
    split
    · split <;> rfl
    · rfl
  | lost f =>
    simp only [step, lostStep]
    split <;> rfl
  | reader =>
    simp only [step, readerStep, reportLoss]
    split <;> first | rfl | (split <;> rfl)
  | clock moment =>
    simp only [step]
    split <;> rfl

theorem step_eq_with {s : Session τ} {e : Event τ} (h : ∀ n sig, e ≠ .move n sig) :
    ∃ st t r rd cs moment ls, s.step e = { s with
      state := st, connection := t, receiver := r, reader := rd, callers := cs, now := moment,
      log := ls } := by
  cases e with
  | move n sig => exact absurd rfl (h n sig)
  | call i => exact ⟨_, _, _, _, _, _, _, rfl⟩
  | frame f =>
    simp only [step, frameStep]
    split
    · split <;> exact ⟨_, _, _, _, _, _, _, rfl⟩
    · exact ⟨_, _, _, _, _, _, _, rfl⟩
  | lost f =>
    simp only [step, lostStep]
    split <;> exact ⟨_, _, _, _, _, _, _, rfl⟩
  | reader =>
    simp only [step, readerStep, reportLoss]
    split <;> first | exact ⟨_, _, _, _, _, _, _, rfl⟩ | (split <;> exact ⟨_, _, _, _, _, _, _, rfl⟩)
  | clock moment =>
    simp only [step]
    split <;> exact ⟨_, _, _, _, _, _, _, rfl⟩

/-- Where a caller stands after a step: where it stood before, or it moved, or it has just come. -/
theorem caller_step {s : Session τ} {e : Event τ} {n : Nat} {p' : Phase τ}
    (h : (s.step e).callers[n]? = some p') :
    (s.callers[n]? = some p' ∧ ∀ sig, e ≠ .move n sig) ∨
    (∃ p sig, e = .move n sig ∧ s.callers[n]? = some p ∧ p' = (s.moved n p sig).1) ∨
    (∃ i, e = .call i ∧ s.callers[n]? = none ∧ p' = i.phase) := by
  cases e with
  | call i =>
    simp only [step] at h
    rcases Nat.lt_trichotomy n s.callers.length with hn | rfl | hn
    · rw [List.getElem?_append_left hn] at h
      exact .inl ⟨h, by simp⟩
    · rw [List.getElem?_concat_length] at h
      exact .inr (.inr ⟨i, rfl, List.getElem?_eq_none (Nat.le_refl _), (Option.some_inj.1 h).symm⟩)
    · rw [List.getElem?_eq_none (by rw [List.length_append]; exact hn)] at h
      cases h
  | move m sig =>
    rw [callers_step_move] at h
    split at h
    · next hm =>
      subst hm
      obtain ⟨p, hp, rfl⟩ := Option.map_eq_some_iff.1 h
      exact .inr (.inl ⟨p, sig, rfl, hp, rfl⟩)
    · next hm => exact .inl ⟨h, fun sig' he ↦ hm (Event.move.inj he).1⟩
  | frame | lost | reader | clock =>
    rw [callers_step_of_not_move (by simp) (by simp)] at h
    exact .inl ⟨h, by simp⟩

theorem ask_step {s : Session τ} {e : Event τ} {n : Nat} {p' : Phase τ} (hp' : p'.IsAsk)
    (h : (s.step e).callers[n]? = some p') :
    (s.callers[n]? = some p' ∧ ∀ sig, e = .move n sig → ¬p'.Takes sig) ∨
    (∃ p sig, e = .move n sig ∧ p.IsAsk ∧ p.Takes sig ∧ s.callers[n]? = some p ∧
      Advance n s p sig p' (s.moved n p sig).2) ∨
    (∃ a, e = .call (.ask a) ∧ s.callers[n]? = none ∧ p' = .ask a) := by
  obtain ⟨hp, he⟩ | ⟨p, sig, rfl, hp, rfl⟩ | ⟨i, rfl, hn, rfl⟩ := caller_step h
  · exact .inl ⟨hp, fun sig h ↦ absurd h (he sig)⟩
  · by_cases ha : p.IsAsk
    · by_cases ht : p.Takes sig
      · exact .inr (.inl ⟨p, sig, rfl, ha, ht, hp, advance_moved n s ha ht⟩)
      · rw [moved_of_not_takes n s ha ht]
        exact .inl ⟨hp, fun sig' h ↦ (Event.move.inj h).2 ▸ ht⟩
    · exact absurd hp' (manage_moved n s sig ha).not_isAsk
  · cases i with
    | ask a => exact .inr (.inr ⟨a, rfl, hn, rfl⟩)
    | connect token | close => exact hp'.elim

theorem manage_step {s : Session τ} {e : Event τ} {n : Nat} {p' : Phase τ} (hp' : ¬p'.IsAsk)
    (hr : ∀ r, p' ≠ .ended r) (h : (s.step e).callers[n]? = some p') :
    s.callers[n]? = some p' ∨
    (∃ p sig s', e = .move n sig ∧ s.callers[n]? = some p ∧ Manage s p sig p' s') ∨
    ∃ i : Invocation τ, p' = i.phase := by
  obtain ⟨hp, -⟩ | ⟨p, sig, rfl, hp, rfl⟩ | ⟨i, -, -, rfl⟩ := caller_step h
  · exact .inl hp
  · by_cases ha : p.IsAsk
    · by_cases ht : p.Takes sig
      · obtain hask | ⟨r, hend⟩ := (advance_moved n s ha ht).isAsk_or_ended
        · exact absurd hask hp'
        · exact absurd hend (hr r)
      · rw [moved_of_not_takes n s ha ht] at hp'
        exact absurd ha hp'
    · exact .inr (.inl ⟨p, sig, _, rfl, hp, manage_moved n s sig ha⟩)
  · exact .inr (.inr ⟨i, rfl⟩)

theorem callers_step {s : Session τ} {n : Nat} {p : Phase τ} (hp : s.callers[n]? = some p)
    (e : Event τ) : (s.step e).callers[n]? = some p ∧ (∀ sig, e ≠ .move n sig) ∨
      ∃ sig, e = .move n sig ∧ (s.step e).callers[n]? = some (s.moved n p sig).1 := by
  cases e with
  | call i =>
    refine .inl ⟨?_, by simp⟩
    rw [← hp]
    exact List.getElem?_append_left (List.getElem?_eq_some_iff.1 hp).1
  | move m sig =>
    by_cases hm : m = n
    · subst hm
      refine .inr ⟨sig, rfl, ?_⟩
      exact caller_move hp sig
    · refine .inl ⟨?_, fun sig' he ↦ hm (Event.move.inj he).1⟩
      rw [caller_others hm, hp]
  | frame | lost | reader | clock =>
    rw [callers_step_of_not_move (by simp) (by simp)]
    exact .inl ⟨hp, by simp⟩

theorem ask_goes {s : Session τ} {n : Nat} {p : Phase τ} (hp : s.callers[n]? = some p) (ha : p.IsAsk)
    (e : Event τ) : (s.step e).callers[n]? = some p ∧ (∀ sig, e = .move n sig → ¬p.Takes sig) ∨
      ∃ sig p' s', e = .move n sig ∧ p.Takes sig ∧ Advance n s p sig p' s' ∧
        s.step e = { s' with callers := s.callers.set n p' } ∧
        (s.step e).callers[n]? = some p' := by
  obtain ⟨hp', he⟩ | ⟨sig, rfl, hp'⟩ := callers_step hp e
  · exact .inl ⟨hp', fun sig h ↦ absurd h (he sig)⟩
  · by_cases ht : p.Takes sig
    · exact .inr ⟨sig, _, _, rfl, ht, advance_moved n s ha ht, step_move hp sig, hp'⟩
    · rw [moved_of_not_takes n s ha ht] at hp'
      exact .inl ⟨hp', fun sig' h ↦ (Event.move.inj h).2 ▸ ht⟩

def result? (n : Nat) (s : Session τ) : Option (Except Error (Option Classification)) :=
  (s.callers[n]?).bind fun
    | .ended r => some r
    | _ => none

omit [Clock τ] in
theorem result?_eq_some_iff {s : Session τ} {n : Nat} {r : Except Error (Option Classification)} :
    s.result? n = some r ↔ s.callers[n]? = some (.ended r) := by
  unfold result?
  cases s.callers[n]? with
  | none => simp
  | some p => cases p <;> simp

theorem ended_stays {s : Session τ} {n : Nat} {r : Except Error (Option Classification)}
    (h : s.callers[n]? = some (.ended r)) (e : Event τ) :
    (s.step e).callers[n]? = some (.ended r) := by
  obtain ⟨hp, -⟩ | ⟨sig, rfl, hp⟩ := callers_step h e
  · exact hp
  · cases sig <;> exact hp

theorem ended_run {s : Session τ} {n : Nat} {r : Except Error (Option Classification)}
    (h : s.callers[n]? = some (.ended r)) (es : List (Event τ)) :
    (s.run es).callers[n]? = some (.ended r) := by
  induction es generalizing s with
  | nil => exact h
  | cons e es ih => exact ih (ended_stays h e)

theorem call_goes {s : Session τ} {n : Nat} {p : Phase τ} (hp : s.callers[n]? = some p)
    (ha : p.IsAsk ∨ ∃ r, p = .ended r) (e : Event τ) :
    (s.step e).callers[n]? = some p ∧ (∀ sig, e = .move n sig → p.IsAsk → ¬p.Takes sig) ∨
      ∃ sig p' s', e = .move n sig ∧ Advance n s p sig p' s' ∧
        s.step e = { s' with callers := s.callers.set n p' } ∧
        (s.step e).callers[n]? = some p' := by
  obtain ha | ⟨r, rfl⟩ := ha
  · obtain ⟨hp', ht⟩ | ⟨sig, p', s', he, -, hadv, hs, hp'⟩ := ask_goes hp ha e
    · exact .inl ⟨hp', fun sig he _ ↦ ht sig he⟩
    · exact .inr ⟨sig, p', s', he, hadv, hs, hp'⟩
  · exact .inl ⟨ended_stays hp e, fun _ _ hc ↦ hc.elim⟩

/-- What holds of a caller that asks or has ended, however it advances, holds of it along every run. -/
theorem call_run {P : Phase τ → Prop} {n : Nat} (hP : ∀ {p}, P p → p.IsAsk ∨ ∃ r, p = .ended r)
    (hadv : ∀ {s s' : Session τ} {p p' : Phase τ} {sig : Signal}, Advance n s p sig p' s' → P p → P p')
    {s : Session τ} {p : Phase τ} (hp : s.callers[n]? = some p) (h : P p) (es : List (Event τ)) :
    ∃ q, (s.run es).callers[n]? = some q ∧ P q := by
  induction es generalizing s p with
  | nil => exact ⟨p, hp, h⟩
  | cons e es ih =>
    obtain ⟨hp', -⟩ | ⟨sig, q, s', -, hq, -, hp'⟩ := call_goes hp (hP h) e
    · exact ih hp' h
    · exact ih hp' (hadv hq h)

theorem moved_of_stays {s : Session τ} {n : Nat} {p : Phase τ} {sig : Signal}
    (hp : p.IsAsk ∨ ∃ r, p = .ended r) (ht : p.IsAsk → ¬p.Takes sig) : s.moved n p sig = (p, s) := by
  obtain ha | ⟨r, rfl⟩ := hp
  · exact moved_of_not_takes n s ha (ht ha)
  · cases sig <;> rfl

end VerdictClient.Session
