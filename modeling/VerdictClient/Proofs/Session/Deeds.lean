import VerdictClient.Proofs.Session.Undisturbed

namespace VerdictClient.Session

variable {τ : Type}

/-- What a caller does, with the moment if it matters. -/
inductive Deed (τ : Type) where
  | registers (st : Stage) (moment : τ)
  | waits (st : Stage) (moment : τ)
  /-- It finds its time over. -/
  | stops (st : Stage) (moment : τ)
  /-- It finds that nobody can be made to wait so long. -/
  | balks (st : Stage) (moment : τ)
  /-- It calls for the upload, which puts a request on the way or fails at once. -/
  | uploads (target : Upload.Target) (content : Upload.Content) (length : Option Value)
      (put : Except Error Upload.Put)
  | uploaded (result : Except Error Unit)

def Deed.upload? : Deed τ → Option (Upload.Target × Upload.Content × Option Value)
  | .uploads x b l _ => some (x, b, l)
  | _ => none

def deedOf? (s : Session τ) : Phase τ → Signal → Phase τ → Option (Deed τ)
  | .register _, .go, .send _ _ => some (.registers .first s.now)
  | .registerFinal _ _ _ _, .go, .upload _ _ _ _ _ => some (.registers .final s.now)
  | .send _ _, .written _, .await _ _ _ _ => some (.waits .first s.now)
  | .restart _ _, .go, .await _ _ _ _ => some (.waits .final s.now)
  | .await _ st _ _, .struck, .expire _ _ _ => some (.stops st s.now)
  | .await _ st _ _, .go, .ended (.error (.timeoutRange _)) => some (.balks st s.now)
  | .upload _ _ x b l, .go, _ =>
    some (.uploads x b l (Upload.start s.files x ⟨s.settings.uploadTimeout, l⟩ b))
  | .uploading _ _ x b, .answered o, _ => some (.uploaded ((Upload.finish x b o).map fun _ ↦ ()))
  | _, _, _ => none

variable {s : Session τ} {e : Event τ} {n : Nat} {p p' : Phase τ} {sig : Signal}

theorem deedOf?_received {j : Job τ} {st : Stage} {k : Nat} {w : τ} (v : VerdictResponse) :
    s.deedOf? (.await j st k w) .go (received j st (.ok v)) = none := by
  unfold received
  dsimp only
  split
  · split
    · split <;> rfl
    · rfl
  · rfl

@[simp]
theorem deedOf?_expire {j : Job τ} {st : Stage} {k : Nat} : s.deedOf? (.expire j st k) sig p' = none := rfl

@[simp]
theorem deedOf?_abandon {g : Text} {r : Error} : s.deedOf? (.abandon g r) sig p' = none := rfl

variable [Clock τ]

def deed? (n : Nat) (s : Session τ) : Event τ → Option (Deed τ)
  | .move m sig => if m = n then (s.callers[n]?).bind fun p ↦ s.deedOf? p sig (s.moved n p sig).1 else none
  | _ => none

def deeds (n : Nat) (s : Session τ) (es : List (Event τ)) : List (Deed τ) := observed (deed? n) s es

theorem deed?_of_step (hp : s.callers[n]? = some p)
    (hp' : (s.step (.move n sig)).callers[n]? = some p') :
    s.deed? n (.move n sig) = s.deedOf? p sig p' := by
  rw [callers_step_move, if_pos rfl, hp, Option.map_some] at hp'
  simp only [deed?, if_pos, hp, Option.bind_some, Option.some_inj.1 hp']

omit [Clock τ] in
theorem deedOf?_self (ht : ¬p.Takes sig) : s.deedOf? p sig p = none := by
  cases p <;> cases sig <;> first | rfl | exact absurd trivial ht

omit [Clock τ] in
theorem deedOf?_of_not_isAsk (hp : ¬p.IsAsk) : s.deedOf? p sig p' = none := by
  cases p <;> first | rfl | exact absurd trivial hp

theorem deed?_of_stay (hp : s.callers[n]? = some p)
    (hs : ∀ sig, e = .move n sig → p.IsAsk → ¬p.Takes sig) : s.deed? n e = none := by
  cases e with
  | move m sig =>
    by_cases hm : m = n
    · subst hm
      simp only [deed?, if_pos, hp, Option.bind_some]
      by_cases ha : p.IsAsk
      · have ht := hs sig rfl ha
        rw [moved_of_not_takes m s ha ht]
        exact deedOf?_self ht
      · exact deedOf?_of_not_isAsk ha
    · exact if_neg hm
  | call | frame | lost | reader | clock => rfl

theorem deed?_of_none (hn : s.callers[n]? = none) : s.deed? n e = none := by
  cases e with
  | move m sig => simp [deed?, hn]
  | call | frame | lost | reader | clock => rfl

omit [Clock τ] in
theorem deedOf?_of_before (hp : p.Before .first) (hp' : p'.Before .first) :
    s.deedOf? p sig p' = none := by
  cases p with
  | register j =>
    cases p' with
    | send => cases hp'
    | _ => cases sig <;> rfl
  | ask | check => rfl
  | send | registerFinal => cases hp
  | await | expire => cases hp.2
  | _ => exact hp.elim

theorem deeds_eq_nil {es : List (Event τ)} (h : NotYet n .first (s.run es)) : deeds n s es = [] := by
  induction es using List.reverseRecOn with
  | nil => rfl
  | append_singleton es e ih =>
    rw [run_concat] at h
    rw [deeds, observed_concat_none, ← deeds, ih h.of_step]
    cases hp : (s.run es).callers[n]? with
    | none => exact deed?_of_none hp
    | some p =>
      obtain ⟨-, he⟩ | ⟨sig, rfl, hp'⟩ := callers_step hp e
      · exact deed?_of_stay hp fun sig hc ↦ absurd hc (he sig)
      · rw [deed?_of_step hp hp']
        exact deedOf?_of_before (h.of_step _ hp) (h _ hp')

end VerdictClient.Session
