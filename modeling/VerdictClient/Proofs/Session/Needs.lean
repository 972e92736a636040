import VerdictClient.Proofs.Session.Calm
import VerdictClient.Proofs.Session.Wire

namespace VerdictClient.Session

variable {τ : Type} [Clock τ]

def Phase.needs : Phase τ → Nat
  | .connect _ | .opening _ | .install _ | .announce _ | .greet _ _ => 2
  | .awaitAuth _ _ => 1
  | .ask _ | .check _ | .register _ | .send _ _ => 4
  | .await _ .first _ _ => 3
  | .expire _ .first _ | .registerFinal _ _ _ _ | .upload _ _ _ _ _ | .uploading _ _ _ _ => 2
  | .restart _ _ | .await _ .final _ _ => 1
  | _ => 0

/-- How many responses all callers need at most, if so many frames have been answered. -/
def needs (answered : Nat) (s : Session τ) : Nat :=
  (s.callers.map Phase.needs).sum + (s.taken.length - answered)

variable {s s' : Session τ} {n : Nat} {p p' : Phase τ} {sig : Signal} {e : Event τ}
  {a : Nat}

omit [Clock τ] in
theorem needs_received_first (j : Job τ) (a : Except Error VerdictResponse) :
    (received j .first a).needs ≤ 2 := by
  unfold received
  split
  · simp [Phase.needs]
  · split
    · split
      · split <;> simp [Phase.needs]
      · simp [Phase.needs]
    · simp [Phase.needs]

omit [Clock τ] in
theorem needs_received_le (j : Job τ) (st : Stage) (k : Nat) (a : Except Error VerdictResponse) :
    (received j st a).needs ≤ (Phase.expire j st k : Phase τ).needs := by
  cases st with
  | first => exact needs_received_first j a
  | final =>
    unfold received
    split <;> exact Nat.le_refl 0

omit [Clock τ] in
theorem needs_expire (j : Job τ) (st : Stage) (k : Nat) (w : τ) :
    (Phase.expire j st k : Phase τ).needs + 1 = (Phase.await j st k w).needs := by
  cases st <;> rfl

omit [Clock τ] in
theorem needs_uploadFailed (j : Job τ) (r : Error) : (uploadFailed j r).needs = 0 := by
  cases r <;> rfl

theorem Advance.needs_le (h : Advance n s p sig p' s') : p'.needs ≤ p.needs := by
  cases h with
  | @settle j st k w _ a =>
    have hr := needs_received_le j st k a
    have he := needs_expire j st k w
    omega
  | @strike j st k w =>
    have he := needs_expire j st k w
    omega
  | expire => exact needs_received_le _ _ _ _
  | failUpload | refuseUpload =>
    rw [needs_uploadFailed]
    exact Nat.zero_le _
  | linger | lose => exact Nat.le_refl _
  | _ => simp [Phase.needs]

theorem Manage.needs_le (h : Manage s p sig p' s') : p'.needs ≤ p.needs := by
  cases h with
  | stay => exact Nat.le_refl _
  | _ => simp [Phase.needs]

theorem needs_moved_le (n : Nat) (s : Session τ) (p : Phase τ) (sig : Signal) :
    (s.moved n p sig).1.needs ≤ p.needs := by
  by_cases ha : p.IsAsk
  · by_cases ht : p.Takes sig
    · exact (advance_moved n s ha ht).needs_le
    · exact Nat.le_of_eq (by rw [moved_of_not_takes n s ha ht])
  · exact (manage_moved n s sig ha).needs_le

/-- Whoever writes a frame needs an answer to it, and one less besides. -/
theorem needs_moved_of_frame? {f : Text} (hf : p.frame? = some f) (n : Nat) (s : Session τ)
    (o : Option Failure) : (s.moved n p (.written o)).1.needs + 1 ≤ p.needs := by
  obtain ⟨x, w, rfl, -⟩ | ⟨j, k, rfl, -⟩ := Phase.frame?_cases hf
  · simp only [moved, greetStep]
    split
    · simp [Phase.needs]
    · split
      · simp [Phase.needs]
      · simp [Phase.needs]
  · simp only [moved, sendStep]
    split
    · simp [Phase.needs]
    · split <;> simp [Phase.needs]

theorem sum_needs_move (hp : s.callers[n]? = some p) (sig : Signal) :
    ((s.step (.move n sig)).callers.map Phase.needs).sum + p.needs =
      (s.callers.map Phase.needs).sum + (s.moved n p sig).1.needs := by
  rw [step_move hp]
  exact sum_map_set Phase.needs hp _

theorem needs_move (hp : s.callers[n]? = some p) (sig : Signal) :
    (s.step (.move n sig)).needs a ≤ s.needs a := by
  have hsum := sum_needs_move hp sig
  have hle := needs_moved_le n s p sig
  unfold needs
  obtain ht | ⟨ht, -⟩ := taken_move hp sig
  · rw [ht, List.length_append]
    -- A frame that is taken is one more to answer, but then its caller needs one answer less.
    cases htakes : s.takes? (.move n sig) with
    | none =>
      simp only [Option.map_none, Option.toList_none, List.length_nil]
      omega
    | some y =>
      obtain ⟨m, f⟩ := y
      obtain ⟨o, q, he, -, hq, hf⟩ := exists_of_takes? htakes
      obtain ⟨rfl, rfl⟩ := Event.move.inj he
      obtain rfl := Option.some_inj.1 (hp.symm.trans hq)
      have hless := needs_moved_of_frame? hf n s o
      simp only [Option.map_some, Option.toList_some, List.length_singleton]
      omega
  · rw [ht, List.length_nil]
    omega

theorem needs_step (he : e.call? = none) (s : Session τ) : (s.step e).needs a ≤ s.needs a := by
  by_cases hm : ∃ n sig, e = .move n sig
  · obtain ⟨n, sig, rfl⟩ := hm
    cases hp : s.callers[n]? with
    | none => exact Nat.le_of_eq (by rw [step_move_of_none hp])
    | some p => exact needs_move hp sig
  · have hcallers : (s.step e).callers = s.callers := by
      apply callers_step_of_not_move
      · rintro i rfl
        cases he
      · rintro n sig rfl
        exact hm ⟨n, sig, rfl⟩
    have htakes : s.takes? e = none := by
      cases e with
      | move n sig => exact absurd ⟨n, sig, rfl⟩ hm
      | call | frame | lost | reader | clock => rfl
    unfold needs
    rw [hcallers]
    obtain ht | ⟨ht, -⟩ := s.taken_step e
    · rw [ht, htakes]
      simp
    · rw [ht]
      simp

theorem Continues.needs_le (h : Continues s s') : s'.needs a ≤ s.needs a :=
  h.induction (P := fun s' ↦ s'.needs a ≤ s.needs a) (Nat.le_refl _)
    fun he hle ↦ Nat.le_trans (needs_step he _) hle

theorem needs_call (s : Session τ) (i : Invocation τ) :
    (s.step (.call i)).needs a = s.needs a + i.phase.needs := by
  have hcallers : (s.step (.call i)).callers = s.callers ++ [i.phase] := rfl
  have ht : (s.step (.call i)).taken = s.taken := rfl
  unfold needs
  rw [hcallers, ht, List.map_append, List.sum_append, List.map_singleton, List.sum_singleton]
  omega

theorem needs_move_lt (hp : s.callers[n]? = some p) (hf : p.frame? = none)
    (h : (s.moved n p sig).1.needs < p.needs) : (s.step (.move n sig)).needs a < s.needs a := by
  have hsum := sum_needs_move hp sig
  have ht : (s.step (.move n sig)).taken.length ≤ s.taken.length := by
    obtain ht | ⟨ht, -⟩ := taken_move hp sig
    · rw [ht, takes?_of_frame?_none hp hf]
      simp
    · rw [ht]
      exact Nat.zero_le _
  unfold needs
  omega

end VerdictClient.Session
