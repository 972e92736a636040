import VerdictClient.Proofs.Correlator.Commute
import VerdictClient.Proofs.Session.Handshake
import VerdictClient.Proofs.Session.Log
import VerdictClient.Proofs.Session.Undisturbed

namespace VerdictClient.Session

variable {τ : Type} [Clock τ] {s s' : Session τ} {e : Event τ} {n k : Nat} {j : Job τ} {st : Stage}
  {settings : Settings τ} {files : FileSystem} {es : List (Event τ)}

/-- Where a caller stands that only looks up, the responses that it has heard being `vs`. -/
def Phase.LooksUp (j : Job τ) (vs : List VerdictResponse) : Phase τ → Prop
  | .check j' | .register j' | .send j' _ => j' = j
  | .await j' st _ _ | .expire j' st _ => j' = j ∧ st = .first
  | .abandon _ _ => True
  | .ended r => ∀ c, r = .ok c →
      ∃ v, vs.head? = some v ∧ v.guid = j.request.guid ∧ c = some (.ofResponse v)
  | _ => False

omit [Clock τ] in
theorem Phase.LooksUp.append {p : Phase τ} {vs : List VerdictResponse} (h : p.LooksUp j vs)
    (ws : List VerdictResponse) : p.LooksUp j (vs ++ ws) := by
  cases p with
  | ended r =>
    intro c hc
    obtain ⟨v, hv, hg⟩ := h c hc
    exact ⟨v, by rw [List.head?_append, hv]; rfl, hg⟩
  | _ => exact h

omit [Clock τ] in
theorem Phase.LooksUp.isAsk_or_ended {p : Phase τ} {vs : List VerdictResponse} (h : p.LooksUp j vs) :
    p.IsAsk ∨ ∃ r, p = .ended r := by
  cases p with
  | ended r => exact .inr ⟨r, rfl⟩
  | check | register | send | await | expire | abandon => exact .inl trivial
  | _ => exact h.elim

/-- A frame completes the request of caller `n`. -/
def Completes (f : Frame) (n : Nat) (s : Session τ) : Prop :=
  ∃ p j st k t t', s.callers[n]? = some p ∧ Phase.hold? p = some (j, st, k) ∧
    s.correlator.ticket? k = some t ∧ t.outcome = .pending ∧
    (s.step (.frame f)).correlator.ticket? k = some t' ∧ t'.outcome ≠ .pending

theorem Completes.mem {os : List Nat} {f : Frame} (hl : Ledger s os) (h : Completes f n s) :
    ∃ k v, s.dispatched? (.frame f) = some v ∧ os[k]? = some n ∧
      (v.guid, k) ∈ s.correlator.pending := by
  obtain ⟨p, j, st, k, t, t', hp, hh, ht, ho, ht', ho'⟩ := h
  obtain ⟨hk, ⟨u, hu, hg, hf, hw⟩, -⟩ := hl.held hp hh
  obtain rfl : t = u := Option.some_inj.1 (ht.symm.trans hu)
  obtain ⟨hm, -⟩ := hl.sound.mem ht (hw ho)
  obtain ⟨he, -⟩ | ⟨v, hv, he⟩ := s.correlator_frameStep f
  · obtain rfl : t = t' := Option.some_inj.1 (ht.symm.trans (he ▸ ht'))
    exact absurd ho ho'
  · refine ⟨k, v, hv, hk, ?_⟩
    obtain ⟨o, ho, -⟩ | ⟨hf, -⟩ | ⟨-, -, ht''⟩ :=
      hl.sound.after_of_waiting ht (hw ho) (.resolve v.guid v)
    · simp only [Correlator.Act.outcome?] at ho
      split at ho
      · next hg => exact hg.1 ▸ hm
      · cases ho
    · cases hf
    · rw [← he] at ht''
      obtain rfl := Option.some_inj.1 (ht''.symm.trans ht')
      exact absurd ho ho'

theorem Completes.unique {os : List Nat} {f : Frame} {m : Nat} (hl : Ledger s os)
    (hn : Completes f n s) (hm : Completes f m s) : n = m := by
  obtain ⟨k, v, hv, hk, hg⟩ := hn.mem hl
  obtain ⟨k', v', hv', hk', hg'⟩ := hm.mem hl
  obtain rfl : v = v' := Option.some_inj.1 (hv.symm.trans hv')
  obtain rfl := hl.sound.unique hg hg'
  exact Option.some_inj.1 (hk.symm.trans hk')

def routed (f : Frame) (c : Correlator τ) : Correlator τ :=
  match Inbound.decode f with
  | .ok (.verdict v) => (c.resolve v.guid v).2
  | _ => c

end VerdictClient.Session
