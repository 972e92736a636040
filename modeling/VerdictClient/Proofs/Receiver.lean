import VerdictClient.Proofs.Correlator
import VerdictClient.Receiver

namespace VerdictClient

def Future.IsTold : Future AuthResponse → Prop
  | .failed e => (∃ c, e = .authentication c) ∨ ∃ c, e = .closed c
  | _ => True

namespace Receiver

variable {τ : Type}

inductive Change (r : Receiver τ) : Receiver τ → Prop
  | keep {r'} (hw : r'.waiters = r.waiters) (he : r'.expecting = r.expecting) : Change r r'
  | settle {r' w o} (hr : r.expecting = some w) (ho : o.IsTold) (hp : o ≠ .pending)
      (hw : r'.waiters = r.waiters.modify w (Future.settle o)) (he : r'.expecting = none) :
      Change r r'

/-- The frame is expected to be the answer to the handshake, and it nests too deep to be read. -/
def Smothers (f : Frame) (r : Receiver τ) : Prop :=
  r.expecting.isSome ∧ ∃ c, handshakeOutcome f = .error c

variable {r r' : Receiver τ}

theorem Change.refl (r : Receiver τ) : Change r r := .keep rfl rfl

theorem Change.congr {q q' : Receiver τ} (h : Change r r') (hw : q.waiters = r.waiters)
    (he : q.expecting = r.expecting) (hw' : q'.waiters = r'.waiters)
    (he' : q'.expecting = r'.expecting) : Change q q' := by
  cases h with
  | keep hk hl => exact .keep (by rw [hw', hk, hw]) (by rw [he', hl, he])
  | settle hr ho hp hk hl => exact .settle (he.trans hr) ho hp (by rw [hw', hk, hw]) (he'.trans hl)

theorem Change.length_eq (h : Change r r') : r'.waiters.length = r.waiters.length := by
  cases h with
  | keep hw => rw [hw]
  | settle _ _ _ hw => rw [hw, List.length_modify]

theorem change_settleWaiter (r : Receiver τ) {o : Future AuthResponse} (ho : o.IsTold)
    (hp : o ≠ .pending) : Change r (r.settleWaiter o) := by
  unfold settleWaiter
  split
  · exact .refl r
  · next w hr => exact .settle hr ho hp rfl rfl

theorem expecting_settleWaiter (r : Receiver τ) (o : Future AuthResponse) :
    (r.settleWaiter o).expecting = none := by
  unfold settleWaiter
  split
  · assumption
  · rfl

theorem correlator_settleWaiter (r : Receiver τ) (o : Future AuthResponse) :
    (r.settleWaiter o).correlator = r.correlator := by
  unfold settleWaiter
  split <;> rfl

theorem change_cancelAuth (r : Receiver τ) : Change r r.cancelAuth :=
  r.change_settleWaiter trivial (by simp)

theorem change_failWaiter (r : Receiver τ) (c : ClosedCause) : Change r (r.failWaiter c) :=
  r.change_settleWaiter (.inr ⟨c, rfl⟩) (by simp)

theorem noteEnd_frame (e : Error) (r : Receiver τ) :
    (r.noteEnd e).waiters = r.waiters ∧ (r.noteEnd e).expecting = r.expecting ∧
      (r.noteEnd e).correlator = r.correlator := by
  cases e <;> exact ⟨rfl, rfl, rfl⟩

theorem change_failWaiter_noteEnd (e : Error) (c : ClosedCause) (r : Receiver τ) :
    Change r ((r.noteEnd e).failWaiter c) := by
  obtain ⟨hw, he, -⟩ := r.noteEnd_frame e
  exact ((r.noteEnd e).change_failWaiter c).congr hw.symm he.symm rfl rfl

theorem isTold_of_handshakeOutcome {f : Frame} {o : Future AuthResponse}
    (h : handshakeOutcome f = .ok o) : o.IsTold ∧ o ≠ .pending := by
  unfold handshakeOutcome at h
  split at h
  · obtain rfl := Except.ok.inj h
    exact ⟨trivial, by simp⟩
  · obtain rfl := Except.ok.inj h
    exact ⟨.inl ⟨_, rfl⟩, by simp⟩
  · cases h

theorem route_frame (f : Frame) (r : Receiver τ) :
    (r.route f).waiters = r.waiters ∧ (r.route f).expecting = r.expecting := by
  unfold route
  split <;> exact ⟨rfl, rfl⟩

/-- A frame smothers the waiter and ends reading, or it settles the one that expects it. -/
theorem dispatch_cases (f : Frame) (r : Receiver τ) :
    (∃ r', r.dispatch f = (.ok (), r') ∧ Change r r' ∧ ¬Smothers f r) ∨
      ∃ c, Smothers f r ∧ r.dispatch f = (.error c, { r with expecting := none }) := by
  unfold dispatch takeAnswer Smothers
  cases hr : r.expecting with
  | none =>
    obtain ⟨hw, he⟩ := r.route_frame f
    exact .inl ⟨_, rfl, .keep hw he, by simp⟩
  | some w =>
    cases ho : handshakeOutcome f with
    | ok o =>
      obtain ⟨htold, hp⟩ := isTold_of_handshakeOutcome ho
      exact .inl ⟨_, rfl, r.change_settleWaiter htold hp, by simp⟩
    | error c => exact .inr ⟨c, ⟨rfl, c, rfl⟩, rfl⟩

/-- A waiter is told what it can be told. As long as it waits it expects the next frame, unless it was
smothered. -/
structure Waits (smothered : Prop) (r : Receiver τ) : Prop where
  told : ∀ o ∈ r.waiters, o.IsTold
  expected : ∀ w, r.expecting = some w → r.waiters[w]? = some .pending
  waiting : ∀ w, r.waiters[w]? = some .pending → r.expecting = some w ∨ smothered

variable {S S' : Prop}

theorem waits_empty : Waits S (empty : Receiver τ) :=
  ⟨by simp [empty], by simp [empty], by simp [empty]⟩

theorem Waits.mono (h : Waits S r) (hS : S → S') : Waits S' r :=
  ⟨h.told, h.expected, fun w hw ↦ (h.waiting w hw).imp id hS⟩

theorem Waits.change (h : Waits S r) (hc : Change r r') : Waits S r' := by
  cases hc with
  | keep hw he => exact ⟨hw ▸ h.told, hw ▸ he ▸ h.expected, hw ▸ he ▸ h.waiting⟩
  | @settle w o hr ho hp hw he =>
    have hsettled {v : Nat} {u : Future AuthResponse} (hu : r'.waiters[v]? = some u) :
        v = w ∧ u = o ∨ v ≠ w ∧ r.waiters[v]? = some u := by
      rw [hw, List.getElem?_modify] at hu
      by_cases hv : w = v
      · subst hv
        have hu : o = u := by simpa [h.expected w hr] using hu
        exact .inl ⟨rfl, hu.symm⟩
      · exact .inr ⟨Ne.symm hv, by simpa [hv] using hu⟩
    refine ⟨fun u hu ↦ ?_, fun v hv ↦ ?_, fun v hv ↦ ?_⟩
    · obtain ⟨v, hv⟩ := List.mem_iff_getElem?.1 hu
      obtain ⟨-, rfl⟩ | ⟨-, hv⟩ := hsettled hv
      · exact ho
      · exact h.told u (List.mem_of_getElem? hv)
    · cases he.symm.trans hv
    · obtain ⟨-, rfl⟩ | ⟨hne, hv⟩ := hsettled hv
      · exact absurd rfl hp
      · obtain hv | hS := h.waiting v hv
        · exact absurd (Option.some_inj.1 (hv.symm.trans hr)) hne
        · exact .inr hS

theorem Waits.expect (h : Waits S r) (hr : ∀ o ∈ r.waiters, o ≠ .pending) : Waits S r.expectAuth.2 := by
  simp only [expectAuth]
  refine ⟨fun o ho ↦ ?_, fun w hw ↦ ?_, fun w hw ↦ ?_⟩
  · obtain ho | ho := List.mem_append.1 ho
    · exact h.told o ho
    · rw [List.mem_singleton.1 ho]
      trivial
  · rw [← Option.some_inj.1 hw]
    exact List.getElem?_concat_length
  · by_cases hlt : w < r.waiters.length
    · have hold : r.waiters[w]? = some .pending := (List.getElem?_append_left hlt).symm.trans hw
      exact absurd rfl (hr _ (List.mem_of_getElem? hold))
    · have hle := (List.getElem?_eq_some_iff.1 hw).1
      rw [List.length_append, List.length_singleton] at hle
      have hw : w = r.waiters.length := by omega
      exact .inl (by rw [hw])

theorem Waits.smother (h : Waits S r) (hS : S') : Waits S' { r with expecting := none } :=
  ⟨h.told, by simp, fun _ _ ↦ .inr hS⟩

theorem Waits.waiters_settleWaiter (h : Waits False r) (o : Future AuthResponse) :
    (r.settleWaiter o).waiters = r.waiters.map (Future.settle o) := by
  have hsettled {v : Nat} {u : Future AuthResponse} (hu : r.waiters[v]? = some u)
      (hv : r.expecting ≠ some v) : Future.settle o u = u := by
    refine Future.settle_of_ne_pending fun hp ↦ ?_
    subst hp
    exact (h.waiting v hu).elim hv id
  refine List.ext_getElem? fun v ↦ ?_
  rw [List.getElem?_map]
  unfold settleWaiter
  split
  · next hr =>
    cases hu : r.waiters[v]? with
    | none => rfl
    | some u => rw [Option.map_some, hsettled hu (by simp [hr])]
  · next w hr =>
    rw [List.getElem?_modify]
    cases hu : r.waiters[v]? with
    | none => rfl
    | some u =>
      by_cases hw : w = v
      · simp [hw]
      · have hkeep := hsettled hu (by simp [hr, hw])
        simp [hw, hkeep]

theorem isTold_settle {o u : Future AuthResponse} (ho : o.IsTold) (hu : u.IsTold) :
    (Future.settle o u).IsTold := by
  cases u with
  | pending => exact ho
  | done | failed | cancelled => exact hu

end Receiver

end VerdictClient
