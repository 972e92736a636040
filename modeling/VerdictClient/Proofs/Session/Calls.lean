import VerdictClient.Proofs.Session.Closing

namespace VerdictClient.Session

variable {τ : Type}

def Event.call? : Event τ → Option (Invocation τ)
  | .call i => some i
  | _ => none

def calls (es : List (Event τ)) : List (Invocation τ) := es.filterMap Event.call?

variable {s s' : Session τ} {n : Nat} {p p' : Phase τ} {sig : Signal} {e : Event τ}
  {es : List (Event τ)} {i : Invocation τ} {r : Except Error (Option Classification)}

theorem calls_append (es fs : List (Event τ)) : calls (es ++ fs) = calls es ++ calls fs :=
  List.filterMap_append

theorem calls_concat (es : List (Event τ)) (e : Event τ) :
    calls (es ++ [e]) = calls es ++ e.call?.toList := by
  rw [calls_append]
  unfold calls
  rw [List.filterMap_cons]
  cases e.call? <;> rfl

theorem calls_eq_nil (h : ∀ e ∈ es, e.call? = none) : calls es = [] :=
  List.filterMap_eq_nil_iff.2 h

variable [Clock τ]

theorem length_callers_step (s : Session τ) (e : Event τ) :
    (s.step e).callers.length = s.callers.length + e.call?.toList.length := by
  cases e with
  | call i => exact List.length_append
  | move m sig =>
    cases hp : s.callers[m]? with
    | none => rw [step_move_of_none hp]; rfl
    | some p =>
      rw [step_move hp]
      exact List.length_set
  | frame | lost | reader | clock =>
    rw [callers_step_of_not_move (by simp) (by simp)]
    rfl

theorem length_callers_run (s : Session τ) (es : List (Event τ)) :
    (s.run es).callers.length = s.callers.length + (calls es).length := by
  induction es using List.reverseRecOn with
  | nil => rfl
  | append_singleton es e ih =>
    rw [run_concat, length_callers_step, ih, calls_concat, List.length_append, Nat.add_assoc]

variable {settings : Settings τ} {files : FileSystem}

theorem occurs_of_calls (h : (calls es)[n]? = some i) :
    Occurs (Comes n i) (start settings files) es := by
  induction es using List.reverseRecOn with
  | nil => cases h
  | append_singleton es e ih =>
    rw [calls_concat] at h
    by_cases hn : n < (calls es).length
    · rw [List.getElem?_append_left hn] at h
      exact (ih h).concat e
    · -- The call is the last event.
      have hle : (calls es).length ≤ n := Nat.le_of_not_lt hn
      rw [List.getElem?_append_right hle] at h
      cases e with
      | call i' =>
        obtain ⟨hlt, hi⟩ := List.getElem?_eq_some_iff.1 h
        have hlt : n - (calls es).length < 1 := hlt
        have hzero : n - (calls es).length = 0 := Nat.lt_one_iff.1 hlt
        simp only [hzero] at hi
        have hi : i' = i := hi
        refine occurs_concat.2 (.inr ⟨by rw [hi], ?_⟩)
        rw [length_callers_run]
        have hstart : (start settings files).callers.length = 0 := rfl
        omega
      | move | frame | lost | reader | clock => cases h

def Phase.IsAsking : Phase τ → Prop
  | .ended r => r ≠ .ok none
  | p => p.IsAsk

omit [Clock τ] in
theorem isAsking_received (j : Job τ) (st : Stage) (a : Except Error VerdictResponse) :
    (received j st a).IsAsking := by
  unfold received
  split
  · simp [Phase.IsAsking]
  · split
    · split
      · split
        · simp [Phase.IsAsking]
        · exact trivial
      · simp [Phase.IsAsking]
    · simp [Phase.IsAsking]

omit [Clock τ] in
theorem isAsking_uploadFailed (j : Job τ) (x : Error) : (uploadFailed j x).IsAsking := by
  cases x <;> first | exact trivial | simp [uploadFailed, Phase.IsAsking]

theorem Advance.isAsking (h : Advance n s p sig p' s') : p'.IsAsking := by
  cases h with
  | settle | expire => exact isAsking_received _ _ _
  | failUpload | refuseUpload => exact isAsking_uploadFailed _ _
  | refuse | shut | deny | unencodable | breakOff | balk | denyFinal | denyRestart | abandon =>
    simp [Phase.IsAsking]
  | _ => exact trivial

theorem isAsking_step (hp : s.callers[n]? = some p) (h : p.IsAsking) (e : Event τ) :
    ∃ p', (s.step e).callers[n]? = some p' ∧ p'.IsAsking := by
  obtain ⟨hp', -⟩ | ⟨sig, rfl, hp'⟩ := callers_step hp e
  · exact ⟨p, hp', h⟩
  · refine ⟨_, hp', ?_⟩
    by_cases ha : p.IsAsk
    · by_cases ht : p.Takes sig
      · exact (advance_moved n s ha ht).isAsking
      · rw [moved_of_not_takes n s ha ht]
        exact h
    · cases p with
      | ended r => cases sig <;> exact h
      | _ => exact absurd h ha

theorem isAsking_run {a : Ask τ} (h : Occurs (Comes n (.ask a)) (start settings files) es) :
    ∃ p, ((start settings files).run es).callers[n]? = some p ∧ p.IsAsking := by
  induction es using List.reverseRecOn with
  | nil => exact absurd h not_occurs_nil
  | append_singleton es e ih =>
    rw [run_concat]
    obtain h | ⟨rfl, rfl⟩ := occurs_concat.1 h
    · obtain ⟨p, hp, ha⟩ := ih h
      exact isAsking_step hp ha e
    · exact ⟨.ask a, List.getElem?_concat_length, trivial⟩

end VerdictClient.Session
