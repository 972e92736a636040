import VerdictClient.Proofs.Session.Release
import VerdictClient.Proofs.Session.Shut
import VerdictClient.Proofs.Session.WellFormed

namespace VerdictClient.Session

variable {τ : Type}

/-- The caller ends because the connection is closed after it has gone on `k` times. -/
inductive Phase.IsDoomed (s : Session τ) : Nat → Phase τ → Prop
  | ask {a : Ask τ} (h : a.IsInOrder s) : IsDoomed s 3 (.ask a)
  | check {j : Job τ} : IsDoomed s 2 (.check j)
  | register {j : Job τ} : IsDoomed s 1 (.register j)
  | await {j : Job τ} {st k w} (h : s.correlator.HasFailed k) : IsDoomed s 1 (.await j st k w)
  | expire {j : Job τ} {st k} (h : s.correlator.HasFailed k) : IsDoomed s 1 (.expire j st k)
  | registerFinal {j : Job τ} {x b l} : IsDoomed s 1 (.registerFinal j x b l)
  | abandon {g c} : IsDoomed s 1 (.abandon g (.closed c))
  | ended {c} : IsDoomed s 0 (.ended (.error (.closed c)))

variable {s s' : Session τ} {n k : Nat} {p p' : Phase τ} {j : Job τ} {st : Stage} {t : Ticket τ}
variable {sig : Signal}

theorem Phase.IsDoomed.isAsk_or_ended (h : p.IsDoomed s k) : p.IsAsk ∨ ∃ r, p = .ended r := by
  cases h with
  | ended => exact .inr ⟨_, rfl⟩
  | _ => exact .inl trivial

theorem answer_of_failed {c : ClosedCause} (h : t.outcome = .failed (.closed c)) :
    Correlator.answer? t = some (.error (.closed c)) ∧
      Correlator.lateAnswer t = .error (.closed c) := by
  simp only [Correlator.answer?, Correlator.lateAnswer, h, and_self]

variable [Clock τ]

theorem eq_closed_of_register {c : Correlator τ} (h : c.closed.isSome) {moment : τ} {g : Text}
    {timeout : Timeout τ} {fo : Bool} {r : Except Error (Nat × Correlator τ)}
    (hr : c.register moment g timeout fo = r) : ∃ cause, r = .error (.closed cause) := by
  obtain ⟨cause, hc⟩ := Option.isSome_iff_exists.1 h
  exact ⟨cause, by simp only [← hr, Correlator.register, hc]⟩

theorem Phase.IsDoomed.advance (h : p.IsDoomed s k)
    (hs : s.sessionId.isSome → s.state = .authenticated ∨ s.state = .closed)
    (hc : s.correlator.closed.isSome) (hadv : Advance n s p sig p' s') :
    (∃ k', p'.IsDoomed s k' ∧ k' ≤ k - goes n [(.move n sig : Event τ)]) ∧
      s'.connection = s.connection ∧ s'.puts = s.puts := by
  have hgo : goes n [(.move n .go : Event τ)] ≤ 1 := goes_move_le n .go
  have hleft : goes n [(.move n .struck : Event τ)] = 0 := rfl
  cases hadv with
  | refuse hr =>
    cases h with
    | ask ha =>
      obtain rfl := ha.prepare hs hr
      exact ⟨⟨0, .ended, Nat.zero_le _⟩, rfl, rfl⟩
  | prepare =>
    cases h with
    | ask => exact ⟨⟨2, .check, by omega⟩, rfl, rfl⟩
  | shut => exact ⟨⟨0, .ended, Nat.zero_le _⟩, rfl, rfl⟩
  | check =>
    cases h with
    | check => exact ⟨⟨1, .register, by omega⟩, rfl, rfl⟩
  | deny hr | denyFinal hr =>
    obtain ⟨c, hclosed⟩ := eq_closed_of_register hc hr
    obtain rfl := Except.error.inj hclosed
    exact ⟨⟨0, .ended, Nat.zero_le _⟩, rfl, rfl⟩
  | register hr | registerFinal hr =>
    obtain ⟨c, hclosed⟩ := eq_closed_of_register hc hr
    cases hclosed
  | linger hl =>
    cases h with
    | await hk =>
      obtain ⟨rfl, hnone⟩ | ⟨rfl, -⟩ := hl
      · obtain ⟨t, c, ht, ho⟩ := hk
        simp [awaitSettled, ht, answer_of_failed ho] at hnone
      · exact ⟨⟨1, .await hk, Nat.le_of_eq (by rw [hleft])⟩, rfl, rfl⟩
  | settle hu ha =>
    cases h with
    | await hk =>
      obtain ⟨t, c, ht, ho⟩ := hk
      obtain rfl := Option.some_inj.1 (hu.symm.trans ht)
      obtain rfl := Option.some_inj.1 ((answer_of_failed ho).1.symm.trans ha)
      exact ⟨⟨0, .ended, Nat.zero_le _⟩, rfl, rfl⟩
  | balk hu ho =>
    cases h with
    | await hk =>
      obtain ⟨t, c, ht, hf⟩ := hk
      obtain rfl := Option.some_inj.1 (hu.symm.trans ht)
      cases ho.symm.trans hf
  | strike =>
    cases h with
    | await hk => exact ⟨⟨1, .expire hk, Nat.le_of_eq (by rw [hleft])⟩, rfl, rfl⟩
  | expire hu =>
    cases h with
    | expire hk =>
      obtain ⟨t, c, ht, ho⟩ := hk
      obtain rfl := Option.some_inj.1 (hu.symm.trans ht)
      rw [(answer_of_failed ho).2]
      exact ⟨⟨0, .ended, Nat.zero_le _⟩, rfl, rfl⟩
  | lose hu =>
    -- A ticket is never lost, only taken off the map.
    cases h with
    | expire hk =>
      obtain ⟨t, c, ht, -⟩ := hk
      cases hu.symm.trans ht
  | abandon =>
    cases h with
    | abandon => exact ⟨⟨0, .ended, Nat.zero_le _⟩, rfl, rfl⟩
  | _ => cases h

variable {settings : Settings τ} {files : FileSystem} {es : List (Event τ)}

theorem Phase.IsDoomed.later (h : Occurs Shuts (start settings files) es)
    (hd : p.IsDoomed ((start settings files).run es) k) (e : Event τ) :
    p.IsDoomed ((start settings files).run (es ++ [e])) k := by
  cases hd with
  | ask ha => exact .ask (ha.step e)
  | await hk => exact .await (hasFailed_step h hk e)
  | expire hk => exact .expire (hasFailed_step h hk e)
  | check => exact .check
  | register => exact .register
  | registerFinal => exact .registerFinal
  | abandon => exact .abandon
  | ended => exact .ended

theorem doomed_step (h : Occurs Shuts (start settings files) es)
    (hp : ((start settings files).run es).callers[n]? = some p)
    (hd : p.IsDoomed ((start settings files).run es) k) (e : Event τ) :
    (∃ k' p', ((start settings files).run (es ++ [e])).callers[n]? = some p' ∧
      p'.IsDoomed ((start settings files).run (es ++ [e])) k' ∧ k' ≤ k - goes n [e]) ∧
      ∀ sig, e = .move n sig →
        ((start settings files).run (es ++ [e])).connection =
            ((start settings files).run es).connection ∧
          ((start settings files).run (es ++ [e])).puts = ((start settings files).run es).puts := by
  obtain ⟨hp', hstay⟩ | ⟨sig, p', s', rfl, hadv, he, hp'⟩ := call_goes hp hd.isAsk_or_ended e
  · refine ⟨⟨k, p, by rwa [run_concat], hd.later h e, le_sub_goes fun hgo ↦ ?_⟩, fun sig hsig ↦ ?_⟩
    · cases hd with
      | ended => rfl
      | _ =>
        -- A doomed caller that has not ended takes the signal to go on.
        exact absurd trivial (hstay .go hgo trivial)
    · subst hsig
      rw [run_concat, step_move hp, moved_of_stays hd.isAsk_or_ended (hstay sig rfl)]
      exact ⟨rfl, rfl⟩
  · obtain ⟨⟨k', hd', hk⟩, hconn, hputs⟩ := hd.advance state_of_sessionId (closed_of_shuts h) hadv
    refine ⟨⟨k', p', by rwa [run_concat], hd'.later h _, hk⟩, fun _ _ ↦ ?_⟩
    rw [run_concat, he]
    exact ⟨hconn, hputs⟩

/-- Caller `n` writes nothing and uploads nothing any more, and ends because the connection is closed as
soon as it has gone on `k` times, whatever else happens. -/
def EndsClosed (n k : Nat) (s : Session τ) : Prop :=
  ∀ fs : List (Event τ),
    (∀ r, (s.run fs).callers[n]? = some (.ended r) → ∃ c, r = .error (.closed c)) ∧
      (k ≤ goes n fs → ∃ c, (s.run fs).callers[n]? = some (.ended (.error (.closed c)))) ∧
      ∀ sig, ((s.run fs).step (.move n sig)).connection = (s.run fs).connection ∧
        ((s.run fs).step (.move n sig)).puts = (s.run fs).puts

theorem Phase.IsDoomed.endsClosed (hd : p.IsDoomed ((start settings files).run es) k)
    (h : Occurs Shuts (start settings files) es)
    (hp : ((start settings files).run es).callers[n]? = some p) :
    EndsClosed n k ((start settings files).run es) := by
  intro fs
  obtain ⟨k', p', hp', ⟨hshut, hd'⟩, hk⟩ := goes_run (s := start settings files) (n := n)
    (P := fun es k p ↦ Occurs Shuts (start settings files) es ∧
      p.IsDoomed ((start settings files).run es) k) (A := fun _ ↦ True)
    (fun _ hp h ↦ by
      obtain ⟨⟨k', p', hp', hd', hk⟩, -⟩ := doomed_step h.1 hp h.2 _
      exact ⟨k', p', hp', ⟨h.1.concat _, hd'⟩, hk⟩) hp ⟨h, hd⟩ fs (fun _ _ ↦ trivial)
  rw [← run_append]
  refine ⟨fun r hr ↦ ?_, fun hgo ↦ ?_, fun sig ↦ ?_⟩
  · obtain rfl : p' = .ended r := Option.some_inj.1 (hp'.symm.trans hr)
    cases hd' with
    | ended => exact ⟨_, rfl⟩
  · obtain rfl : k' = 0 := by omega
    cases hd' with
    | ended => exact ⟨_, hp'⟩
  · obtain ⟨-, hown⟩ := doomed_step hshut hp' hd' (.move n sig)
    rw [← run_concat]
    exact hown sig rfl

omit [Clock τ] in
theorem error_of_write {f : Text} {o : Option Failure} {r : Error}
    (h : s.write f o = (.error r, s')) : (∃ c, r = .closed c) ∨ ∃ x, o = some x ∧ r = .ofFailure x := by
  unfold write at h
  split at h
  · exact .inl ⟨_, (Except.error.inj (Prod.mk.inj h).1).symm⟩
  · next u _ =>
    have hsend : (u.send f o).1 = .error r := (Prod.mk.inj h).1
    unfold Transport.send at hsend
    split at hsend
    · exact .inl ⟨_, (Except.error.inj hsend).symm⟩
    · cases o with
      | none => cases hsend
      | some x =>
        have hfail : (u.fail x).1 = r := Except.error.inj hsend
        unfold Transport.fail at hfail
        split at hfail
        · exact .inl ⟨_, hfail.symm⟩
        · exact .inr ⟨x, rfl, hfail.symm⟩

/-- A caller whose request failed before its frame was sent finds so whether the frame is taken or not,
unless there is another error. -/
theorem send_of_shuts (h : Occurs Shuts (start settings files) es)
    (hp : ((start settings files).run es).callers[n]? = some (.send j k))
    (hk : ((start settings files).run es).correlator.HasFailed k) (o : Option Failure) :
    EndsClosed n 1 ((start settings files).run (es ++ [.move n (.written o)])) ∨
      ∃ r, ((start settings files).run (es ++ [.move n (.written o)])).callers[n]? =
          some (.ended (.error r)) ∧
        ((∃ c, r = .unencodable c) ∨ ∃ f, o = some f ∧ r = .ofFailure f) := by
  have hk' := hasFailed_step h hk (.move n (.written o))
  have hshut := h.concat (.move n (.written o))
  obtain ⟨-, hstay⟩ | ⟨sig, p', s', he, -, hadv, -, hp'⟩ := ask_goes hp trivial (.move n (.written o))
  · exact absurd trivial (hstay _ rfl)
  · rw [← run_concat] at hp'
    obtain rfl := (Event.move.inj he).2
    cases hadv with
    | unencodable => exact .inr ⟨_, hp', .inl ⟨_, rfl⟩⟩
    | breakOff _ hw hne =>
      obtain ⟨c, rfl⟩ | hf := error_of_write hw
      · exact absurd rfl (hne c)
      · exact .inr ⟨_, hp', .inr hf⟩
    | breakClosed => exact .inl (Phase.IsDoomed.abandon.endsClosed hshut hp')
    | written => exact .inl ((Phase.IsDoomed.await hk').endsClosed hshut hp')

omit [Clock τ] in
theorem answer_of_isLost (h : t.IsLost) : ∃ c, Correlator.answer? t = some (.error (.closed c)) := by
  obtain h | ⟨c, h⟩ := h
  · exact ⟨.discarded t.guid, by simp only [Correlator.answer?, h]⟩
  · exact ⟨c, by simp only [Correlator.answer?, h]⟩

theorem await_of_isLost {w : τ} (hp : s.callers[n]? = some (.await j st k w))
    (ht : s.correlator.ticket? k = some t) (hl : t.IsLost) :
    ∃ c, (s.step (.move n .go)).callers[n]? = some (.ended (.error (.closed c))) := by
  obtain ⟨c, hc⟩ := answer_of_isLost hl
  refine ⟨c, ?_⟩
  rw [caller_move hp]
  simp only [moved, awaitSettled, ht, hc, received, Option.getD_some]

def Gives (o : Future VerdictResponse) (r : Except Error (Option Classification)) : Prop :=
  (∀ v, o = .done v → r = .ok (some (.ofResponse v))) ∧
    ((∀ v, o ≠ .done v) → ∃ c, r = .error (.closed c))

omit [Clock τ] in
theorem gives_answer (j : Job τ) (hs : (∃ v, t.outcome = .done v) ∨ t.IsLost) :
    ∃ a r, Correlator.answer? t = some a ∧ received j .final a = .ended r ∧ Gives t.outcome r := by
  obtain ⟨v, hv⟩ | hl := hs
  · refine ⟨.ok v, .ok (some (.ofResponse v)), by simp only [Correlator.answer?, hv], rfl,
      fun u hu ↦ ?_, fun hne ↦ absurd hv (hne v)⟩
    obtain rfl : v = u := Future.done.inj (hv.symm.trans hu)
    rfl
  · obtain ⟨c, hc⟩ := answer_of_isLost hl
    refine ⟨_, _, hc, rfl, fun v hv ↦ ?_, fun _ ↦ ⟨c, rfl⟩⟩
    obtain h | ⟨c, h⟩ := hl <;> cases h.symm.trans hv

/-- The caller has uploaded, and gets what ticket `k` gives with outcome `o` after it has gone on so
many times. -/
inductive Phase.Reaps (k : Nat) (o : Future VerdictResponse) : Nat → Phase τ → Prop
  | restart (i : Job τ) : Reaps k o 2 (.restart i k)
  | await (i : Job τ) (w : τ) : Reaps k o 1 (.await i .final k w)
  | ended {r} (h : Gives o r) : Reaps k o 0 (.ended r)

omit [Clock τ] in
theorem Phase.Reaps.isAsk_or_ended {o : Future VerdictResponse} {m : Nat} (h : p.Reaps k o m) :
    p.IsAsk ∨ ∃ r, p = .ended r := by
  cases h with
  | ended => exact .inr ⟨_, rfl⟩
  | _ => exact .inl trivial

theorem reaps_step {o : Future VerdictResponse} {m : Nat} {e : Event τ}
    (h : Occurs Shuts (start settings files) es)
    (ht : ((start settings files).run es).correlator.ticket? k = some t) (ho : t.outcome = o)
    (hp : ((start settings files).run es).callers[n]? = some p) (hr : p.Reaps k o m) :
    ∃ m' p', ((start settings files).run (es ++ [e])).callers[n]? = some p' ∧ p'.Reaps k o m' ∧
      m' ≤ m - goes n [e] := by
  have hgo : goes n [(.move n .go : Event τ)] ≤ 1 := goes_move_le n .go
  have hanswer {j : Job τ} {st : Stage} (hh : p.hold? = some (j, st, k)) :
      ∃ a r, Correlator.answer? t = some a ∧ received j .final a = .ended r ∧ Gives o r := by
    obtain ⟨u, hu, hs⟩ := settled_of_shuts h hp hh
    obtain rfl : u = t := Option.some_inj.1 (hu.symm.trans ht)
    exact ho ▸ gives_answer j hs
  rw [run_concat]
  obtain ⟨hp', hstay⟩ | ⟨sig, p', s', rfl, hadv, -, hp'⟩ := call_goes hp hr.isAsk_or_ended e
  · refine ⟨m, p, hp', hr, le_sub_goes fun hgo ↦ ?_⟩
    cases hr with
    | ended => rfl
    | _ => exact absurd trivial (hstay .go hgo trivial)
  · cases hadv with
    | denyRestart hd =>
      cases hr with
      | restart =>
        -- The ticket was handed out, so that its timeout reaches to some moment.
        obtain ⟨-, -, span, hspan⟩ := (ledger_run settings files es).held hp rfl
        cases hd.symm.trans (Correlator.deadline_eq_ok_iff.2 ⟨span, hspan, rfl⟩)
    | restart =>
      cases hr with
      | restart => exact ⟨1, _, hp', .await _ _, by omega⟩
    | linger hl =>
      cases hr with
      | await =>
        obtain ⟨a, r, ha, -⟩ := hanswer rfl
        obtain ⟨-, hnone⟩ | ⟨rfl, -⟩ := hl
        · simp [awaitSettled, ht, ha] at hnone
        · exact ⟨1, _, hp', .await _ _, Nat.le_refl 1⟩
    | settle hu ha =>
      cases hr with
      | await =>
        obtain ⟨a, r, ha', hrec, hgives⟩ := hanswer rfl
        obtain rfl := Option.some_inj.1 (hu.symm.trans ht)
        obtain rfl := Option.some_inj.1 (ha'.symm.trans ha)
        exact ⟨0, _, hp', hrec ▸ .ended hgives, Nat.zero_le _⟩
    -- The ticket is settled, so that nobody is made to wait for it or struck.
    | balk hu hpend =>
      cases hr with
      | await =>
        obtain ⟨a, r, ha, -⟩ := hanswer rfl
        obtain rfl := Option.some_inj.1 (hu.symm.trans ht)
        cases (Correlator.answer?_eq_none_iff.2 hpend).symm.trans ha
    | strike _ hpend =>
      cases hr with
      | await =>
        obtain ⟨a, r, ha, -⟩ := hanswer rfl
        cases (Correlator.answer?_eq_none_iff.2 (hpend t ht)).symm.trans ha
    | _ => cases hr

omit [Clock τ] in
theorem error_of_finish {x : Upload.Target} {b : Upload.Content} {o : Http.Outcome} {r : Error}
    (h : Upload.finish x b o = .error r) :
    (∃ u, r = .upload u) ∨ ∃ f, o = .error f ∧ f.isSystem = false ∧ r = .ofFailure f := by
  unfold Upload.finish at h
  split at h
  · split at h
    · cases h
    · exact .inl ⟨_, (Except.error.inj h).symm⟩
  · next f =>
    split at h
    · exact .inl ⟨_, (Except.error.inj h).symm⟩
    · next hf => exact .inr ⟨f, rfl, by simpa using hf, (Except.error.inj h).symm⟩

omit [Clock τ] in
theorem error_of_start {fs : FileSystem} {x : Upload.Target} {l : Upload.Options} {b : Upload.Content}
    {r : Error} (h : Upload.start fs x l b = .error r) :
    (∃ u, r = .upload u) ∨ ∃ e, r = .file e ∧ e.isSystem = false := by
  cases b with
  | bytes | stream => cases h
  | path q =>
    simp only [Upload.start] at h
    split at h
    · cases h
    · next e _ =>
      split at h
      · exact .inl ⟨_, (Except.error.inj h).symm⟩
      · next he => exact .inr ⟨e, (Except.error.inj h).symm, by simpa using he⟩

inductive Phase.Fails (r : Error) : Nat → Phase τ → Prop
  | abandon {g} : Fails r 1 (.abandon g r)
  | ended : Fails r 0 (.ended (.error r))

omit [Clock τ] in
theorem fails_uploadFailed (j : Job τ) (r : Error) : ∃ m ≤ 1, (uploadFailed j r).Fails r m := by
  cases r with
  | upload => exact ⟨1, Nat.le_refl 1, .abandon⟩
  | _ => exact ⟨0, Nat.zero_le 1, .ended⟩

theorem fails_step {r : Error} {m : Nat} (hp : s.callers[n]? = some p) (hf : p.Fails r m)
    (e : Event τ) : ∃ m' p', (s.step e).callers[n]? = some p' ∧ p'.Fails r m' ∧ m' ≤ m - goes n [e] := by
  cases hf with
  | abandon =>
    obtain ⟨hp', hstay⟩ | ⟨sig, p', s', rfl, -, hadv, -, hp'⟩ := ask_goes hp trivial e
    · exact ⟨1, _, hp', .abandon, le_sub_goes fun hgo ↦ absurd trivial (hstay .go hgo)⟩
    · cases hadv with
      | abandon => exact ⟨0, _, hp', .ended, Nat.zero_le _⟩
  | ended => exact ⟨0, _, ended_stays hp e, .ended, Nat.zero_le _⟩

/-- Caller `n` ends with a result as soon as it has gone on `k` times, whatever else happens. -/
def EndsWith (n k : Nat) (r : Except Error (Option Classification)) (s : Session τ) : Prop :=
  ∀ fs : List (Event τ), (∀ r', (s.run fs).callers[n]? = some (.ended r') → r' = r) ∧
    (k ≤ goes n fs → (s.run fs).callers[n]? = some (.ended r))

theorem endsWith_of_uploadFailed {r : Error} (hp : s.callers[n]? = some (uploadFailed j r)) :
    EndsWith n 1 (.error r) s := by
  intro fs
  obtain ⟨m, hm, hfails⟩ := fails_uploadFailed j r
  rw [← run_nil s] at hp
  obtain ⟨m', p', hp', hfails', hm'⟩ := goes_run (P := fun _ m p ↦ p.Fails r m) (A := fun _ ↦ True)
    (fun {es k p e} _ hp h ↦ by
      rw [run_concat]
      exact fails_step hp h e) hp hfails fs (fun _ _ ↦ trivial)
  rw [List.nil_append] at hp'
  refine ⟨fun r' hr' ↦ ?_, fun hgo ↦ ?_⟩
  · obtain rfl : p' = .ended r' := Option.some_inj.1 (hp'.symm.trans hr')
    cases hfails' with
    | ended => rfl
  · obtain rfl : m' = 0 := by omega
    cases hfails' with
    | ended => exact hp'

theorem upload_fails {x : Upload.Target} {b : Upload.Content} {o : Http.Outcome} {r : Error}
    (hp : s.callers[n]? = some (.uploading j k x b)) (hf : Upload.finish x b o = .error r) :
    EndsWith n 1 (.error r) (s.step (.move n (.answered o))) := by
  refine endsWith_of_uploadFailed (j := j) ?_
  rw [caller_move hp]
  simp only [moved, uploadingStep, hf]

theorem upload_unstarted {x : Upload.Target} {b : Upload.Content} {l : Option Value} {r : Error}
    (hp : s.callers[n]? = some (.upload j k x b l))
    (hf : Upload.start s.files x ⟨s.settings.uploadTimeout, l⟩ b = .error r) :
    EndsWith n 1 (.error r) (s.step (.move n .go)) := by
  refine endsWith_of_uploadFailed (j := j) ?_
  rw [caller_move hp]
  simp only [moved, uploadStep, hf]

/-- A caller whose upload succeeds in a session that is shut gets the verdict that came before, or finds
that the connection is closed. -/
theorem upload_succeeds (h : Occurs Shuts (start settings files) es) {x : Upload.Target}
    {b : Upload.Content} {o : Http.Outcome} {l : LogLine}
    (hp : ((start settings files).run es).callers[n]? = some (.uploading j k x b))
    (ht : ((start settings files).run es).correlator.ticket? k = some t)
    (hf : Upload.finish x b o = .ok l) (fs : List (Event τ)) :
    (∀ r, ((start settings files).run (es ++ .move n (.answered o) :: fs)).callers[n]? =
        some (.ended r) → Gives t.outcome r) ∧
      (2 ≤ goes n fs → ∃ r,
        ((start settings files).run (es ++ .move n (.answered o) :: fs)).callers[n]? =
          some (.ended r)) := by
  have hfirst : ((start settings files).run (es ++ [.move n (.answered o)])).callers[n]? =
      some (.restart j k) := by
    rw [run_concat, caller_move hp]
    simp only [moved, uploadingStep, hf]
  -- The session stays shut and the ticket keeps its outcome, so that both belong to the invariant.
  have hlater := outcome_of_shuts h ht (.move n (.answered o))
  obtain ⟨m, p, hp', ⟨-, -, hr⟩, hm⟩ := goes_run (s := start settings files) (n := n)
    (P := fun es m p ↦ Occurs Shuts (start settings files) es ∧
      (∃ u, ((start settings files).run es).correlator.ticket? k = some u ∧ u.outcome = t.outcome) ∧
        p.Reaps k t.outcome m)
    (A := fun _ ↦ True)
    (fun {es m p e} _ hp h ↦ by
      obtain ⟨hshut, ⟨u, hu, ho⟩, hr⟩ := h
      obtain ⟨m', p', hp', hr', hm'⟩ := reaps_step hshut hu ho hp hr (e := e)
      obtain ⟨u', hu', ho'⟩ := outcome_of_shuts hshut hu e
      exact ⟨m', p', hp', ⟨hshut.concat e, ⟨u', hu', ho'.trans ho⟩, hr'⟩, hm'⟩)
    hfirst ⟨h.concat _, hlater, .restart _⟩ fs (fun _ _ ↦ trivial)
  rw [List.append_assoc, List.singleton_append] at hp'
  refine ⟨fun r hr' ↦ ?_, fun hgo ↦ ?_⟩
  · obtain rfl : p = .ended r := Option.some_inj.1 (hp'.symm.trans hr')
    cases hr with
    | ended hg => exact hg
  · obtain rfl : m = 0 := by omega
    cases hr with
    | ended => exact ⟨_, hp'⟩

end VerdictClient.Session
