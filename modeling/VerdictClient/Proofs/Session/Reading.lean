import VerdictClient.Proofs.Receiver.Loop
import VerdictClient.Proofs.Session.Status

namespace VerdictClient.Session

open Receiver (Change Waits)

variable {τ : Type} [Clock τ]

/-- The frame that should be the answer to the handshake nests too deep to be read. -/
def Smothers (s : Session τ) (e : Event τ) : Prop :=
  ∃ f, e = .frame f ∧ s.reader = .reading ∧ Receiver.Smothers f s.receiver

variable {s s' : Session τ} {n : Nat} {p p' : Phase τ} {sig : Signal} {e : Event τ}

theorem Manage.receiver (h : Manage s p sig p' s') : Change s.receiver s'.receiver ∨
    (∃ x, p = .announce x) ∧ s'.receiver = { s.receiver.expectAuth.2 with log := [] } := by
  obtain hr | ⟨r, hr, hh⟩ := h.handles <;> rw [hr]
  · exact .inl (.refl _)
  · cases hh with
    | announce hp => exact .inr ⟨⟨_, hp⟩, rfl⟩
    | giveUp => exact .inl (s.receiver.change_cancelAuth.congr rfl rfl rfl rfl)
    | failAll => exact .inl (.keep rfl rfl)

omit [Clock τ] in
theorem frameStep_cases (f : Frame) (hr : s.reader = .reading) :
    (∃ r, s.frameStep f = s.withReceiver r ∧ Change s.receiver r ∧ ¬Smothers s (.frame f)) ∨
      ∃ c, Smothers s (.frame f) ∧ s.frameStep f =
        { s.withReceiver { s.receiver with expecting := none } with
          reader := .failWaiter (.tooDeep c) } := by
  obtain ⟨r, hd, hc, hs⟩ | ⟨c, hs, hd⟩ := s.receiver.dispatch_cases f
  · refine .inl ⟨r, by simp only [frameStep, hr, hd], hc, ?_⟩
    rintro ⟨f', hf, -, hs'⟩
    exact hs ((Event.frame.inj hf) ▸ hs')
  · exact .inr ⟨c, ⟨f, rfl, hr, hs⟩, by simp only [frameStep, hr, hd]⟩

omit [Clock τ] in
theorem frameStep_of_ne (f : Frame) (hr : s.reader ≠ .reading) : s.frameStep f = s := by
  unfold frameStep
  split
  · next h => exact absurd h hr
  · rfl

theorem receiver_step (s : Session τ) (e : Event τ) : Change s.receiver (s.step e).receiver ∨
    (∃ (n : Nat) (x : Value), s.callers[n]? = some (.announce x) ∧
      (s.step e).receiver = { s.receiver.expectAuth.2 with log := [] }) ∨
    Smothers s e ∧ (s.step e).receiver = { s.receiver with expecting := none, log := [] } := by
  cases e with
  | call i => exact .inl (.refl _)
  | move n sig =>
    cases hp : s.callers[n]? with
    | none => rw [step_move_of_none hp]; exact .inl (.refl _)
    | some p =>
      obtain h | ⟨p', s', hadv | hman, h, -⟩ := move_cases hp sig <;> rw [h]
      · exact .inl (.refl _)
      · obtain ⟨t, c, k, ps, ls, rfl⟩ := hadv.eq_with
        exact .inl (.keep rfl rfl)
      · exact hman.receiver.imp id fun ⟨⟨x, hx⟩, hr⟩ ↦ .inl ⟨n, x, hx ▸ hp, hr⟩
  | frame f =>
    by_cases hr : s.reader = .reading
    · obtain ⟨r, hf, hc, -⟩ | ⟨c, hs, hf⟩ := frameStep_cases f hr
      · have hstep : s.step (.frame f) = s.withReceiver r := hf
        rw [hstep]
        exact .inl (hc.congr rfl rfl rfl rfl)
      · have hstep : (s.step (.frame f)).receiver = _ := congrArg Session.receiver hf
        exact .inr (.inr ⟨hs, hstep⟩)
    · have hstep : s.step (.frame f) = s := frameStep_of_ne f hr
      rw [hstep]
      exact .inl (.refl _)
  | lost f =>
    simp only [step, lostStep]
    split <;> exact .inl (.refl _)
  | reader =>
    simp only [step, readerStep, reportLoss]
    split
    · exact .inl ((Receiver.change_failWaiter_noteEnd _ _ s.receiver).congr rfl rfl rfl rfl)
    · exact .inl (.keep rfl rfl)
    · split <;> exact .inl (.refl _)
    all_goals exact .inl (.refl _)
  | clock t =>
    simp only [step]
    split <;> exact .inl (.refl _)

theorem waits_run (settings : Settings τ) (files : FileSystem) (es : List (Event τ)) :
    Waits (Occurs Smothers (start settings files) es) ((start settings files).run es).receiver := by
  induction es using List.reverseRecOn with
  | nil => exact Receiver.waits_empty
  | append_singleton es e ih =>
    have hmono := ih.mono fun hs ↦ hs.concat e
    rw [run_concat]
    obtain hc | ⟨n, x, hp, hr⟩ | ⟨hs, hr⟩ :=
      receiver_step ((start settings files).run es) e
    · exact hmono.change hc
    · -- Whoever announces itself is the first to do so.
      have hnil := List.length_eq_zero_iff.1 ((handshake_run settings files es).stands hp trivial)
      rw [hr]
      exact (hmono.expect (by simp [hnil])).change (.keep rfl rfl)
    · rw [hr]
      exact (ih.smother (occurs_concat.2 (.inr hs))).change (.keep rfl rfl)

end VerdictClient.Session
