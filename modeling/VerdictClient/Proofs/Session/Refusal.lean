import VerdictClient.Proofs.Session.Chronicle
import VerdictClient.Proofs.Session.Discipline
import VerdictClient.Proofs.Session.Log

namespace VerdictClient.Session

variable {τ : Type} [Clock τ]

/-- Why a caller that has not registered gets no further. What is looked at first is named first. -/
inductive Refused (s : Session τ) : Phase τ → Error → Prop
  | digest {a r} (h : a.query.refused? = some r) : Refused s (.ask a) r
  | unauthorized {a r} (hq : a.query.refused? = none) (h : s.authorization = .error r) :
      Refused s (.ask a) r
  | unreadable {a id r} (hq : a.query.refused? = none) (hi : s.authorization = .ok id)
      (h : a.query.fields s.files = .error r) : Refused s (.ask a) (.file r)
  | illFormed {a id subject faults} (hq : a.query.refused? = none) (hi : s.authorization = .ok id)
      (hf : a.query.fields s.files = .ok subject)
      (h : VerdictRequest.ofFields a.query.kind
        (s.requestFields id subject (s.chooseGuid a.guid).1) = .error faults) :
      Refused s (.ask a) (.invalidFields a.query.kind.name faults)
  | cut {j} (h : s.transport?.all (·.closed) = true) : Refused s (.check j) (.closed .unnamed)
  | shut {j c} (h : s.correlator.closed = some c) : Refused s (.register j) (.closed c)
  | pending {j} (hc : s.correlator.closed = none)
      (h : s.correlator.contains j.request.guid = true) :
      Refused s (.register j) (.state (.alreadyPending j.request.guid))
  | untimed {j r} (hc : s.correlator.closed = none)
      (hg : s.correlator.contains j.request.guid = false)
      (h : Correlator.deadline s.now j.timeout = .error r) : Refused s (.register j) r

def EndsRefused (n : Nat) (r : Error) (s : Session τ) (e : Event τ) : Prop :=
  e = .move n .go ∧ ∃ p, s.callers[n]? = some p ∧ Refused s p r

variable {s s' : Session τ} {n m : Nat} {p p' q : Phase τ} {sig : Signal} {e : Event τ} {r : Error}
variable {a : Ask τ} {j : Job τ}

omit [Clock τ] in
theorem Phase.before_first_cases (h : p.Before .first) :
    (∃ a, p = .ask a) ∨ (∃ j, p = .check j) ∨ ∃ j, p = .register j := by
  cases p with
  | ask a => exact .inl ⟨a, rfl⟩
  | check j => exact .inr (.inl ⟨j, rfl⟩)
  | register j => exact .inr (.inr ⟨j, rfl⟩)
  | send => cases h
  | registerFinal => cases h
  | await => cases h.2
  | expire => cases h.2
  | _ => exact h.elim

omit [Clock τ] in
theorem requestFields_chooseGuid (id : Text) (subject : Fields) (given guid : Value) :
    (s.chooseGuid given).2.requestFields id subject guid = s.requestFields id subject guid := by
  unfold chooseGuid
  split <;> rfl

theorem Refused.before (h : Refused s p r) : p.Before .first := by
  cases h <;> trivial

theorem prepare_eq_error_iff : (s.prepare a).1 = .error r ↔ Refused s (.ask a) r := by
  unfold prepare
  constructor
  · intro h
    split at h
    · next hq => exact Except.error.inj h ▸ .digest hq
    · next hq =>
      split at h
      · next hi => exact Except.error.inj h ▸ .unauthorized hq hi
      · next id hi =>
        split at h
        · next hf => exact Except.error.inj h ▸ .unreadable hq hi hf
        · next subject hf =>
          dsimp only at h
          split at h
          · next hr =>
            obtain rfl := Except.error.inj h
            exact .illFormed hq hi hf (requestFields_chooseGuid (s := s) .. ▸ hr)
          · cases h
  · intro h
    cases h with
    | digest h => simp only [h]
    | unauthorized hq h => simp only [hq, h]
    | unreadable hq hi h => simp only [hq, hi, h]
    | illFormed hq hi hf h => simp only [hq, hi, hf, requestFields_chooseGuid, h]

theorem register_eq_error_iff :
    s.correlator.register s.now j.request.guid j.timeout false = .error r ↔
      Refused s (.register j) r := by
  unfold Correlator.register
  constructor
  · intro h
    split at h
    · next hc => exact Except.error.inj h ▸ .shut hc
    · next hc =>
      split at h
      · next hg => exact Except.error.inj h ▸ .pending hc hg
      · next hg =>
        split at h
        · next hd => exact Except.error.inj h ▸ .untimed hc (by simpa using hg) hd
        · cases h
  · intro h
    cases h with
    | shut h => simp only [h]
    | pending hc h => simp only [hc, h, if_true]
    | untimed hc hg h => simp only [hc, hg, h, Bool.false_eq_true, if_false]

/-- A caller that has not registered ends exactly as it is refused. -/
theorem moved_eq_ended_iff (hp : p.Before .first) {x : Except Error (Option Classification)} :
    (s.moved n p .go).1 = .ended x ↔ ∃ r, x = .error r ∧ Refused s p r := by
  obtain ⟨a, rfl⟩ | ⟨j, rfl⟩ | ⟨j, rfl⟩ := Phase.before_first_cases hp
  · simp only [moved, askStep, ← prepare_eq_error_iff]
    generalize s.prepare a = y
    rcases y with ⟨e | j, s'⟩ <;> simp [eq_comm]
  · simp only [moved, checkStep]
    split
    · next h =>
      constructor
      · intro hx
        exact ⟨_, (Phase.ended.inj hx).symm, .cut h⟩
      · rintro ⟨r, rfl, hr⟩
        cases hr
        rfl
    · next h =>
      constructor
      · intro hx
        cases hx
      · rintro ⟨r, -, hr⟩
        cases hr with
        | cut hcut => exact absurd hcut h
  · simp only [moved, registerStep, ← register_eq_error_iff]
    generalize s.correlator.register s.now j.request.guid j.timeout false = y
    rcases y with e | ⟨k, c⟩ <;> simp [eq_comm]

omit [Clock τ] in
theorem prepare_of_isTruthy (h : a.guid.isTruthy = true) : (s.prepare a).2 = s := by
  unfold prepare chooseGuid
  simp only [h, if_true]
  split
  · rfl
  split
  · rfl
  split
  · rfl
  split <;> rfl

omit [Clock τ] in
theorem askStep_snd : (s.askStep a).2 = (s.prepare a).2 := by
  unfold askStep
  split <;> next h => rw [h]

def Phase.IsApart (p : Phase τ) : Prop := p.Before .first ∨ ∃ x, p = .ended x

theorem moved_of_isApart (hp : p.IsApart) (hp' : (s.moved n p sig).1.IsApart) :
    ∃ k, (s.moved n p sig).2 = { s with guids := k } ∧
      ((∀ a, p = .ask a → a.guid.isTruthy = true) → k = s.guids) := by
  obtain hb | ⟨x, rfl⟩ := hp
  · by_cases ht : p.Takes sig
    · obtain ⟨a, rfl⟩ | ⟨j, rfl⟩ | ⟨j, rfl⟩ := Phase.before_first_cases hb
      all_goals cases sig <;> first | exact ht.elim | skip
      · have hs : (s.moved n (.ask a) .go).2 = (s.prepare a).2 := askStep_snd
        obtain ⟨k, hk⟩ := s.prepare_snd a
        refine ⟨k, hs.trans hk, fun ha ↦ ?_⟩
        rw [prepare_of_isTruthy (ha a rfl)] at hk
        exact (congrArg Session.guids hk).symm
      · refine ⟨s.guids, ?_, fun _ ↦ rfl⟩
        simp only [moved, checkStep]
        split <;> rfl
      · refine ⟨s.guids, ?_, fun _ ↦ rfl⟩
        simp only [moved, registerStep] at hp' ⊢
        split
        · rfl
        · next hr =>
          rw [hr] at hp'
          obtain hq | ⟨x, hx⟩ := hp'
          · cases hq
          · cases hx
    · exact ⟨s.guids, by rw [moved_of_not_takes n s hb.isAsk ht], fun _ ↦ rfl⟩
  · exact ⟨s.guids, by rw [moved_of_stays (.inr ⟨x, rfl⟩) (fun h ↦ h.elim)], fun _ ↦ rfl⟩

/-- Caller `n` has not come, has not registered, or has ended. -/
def IsApart (n : Nat) (s : Session τ) : Prop := ∀ p, s.callers[n]? = some p → p.IsApart

omit [Clock τ] in
theorem NotYet.isApart (h : NotYet n .first s) : s.IsApart n := fun p hp ↦ .inl (h p hp)

omit [Clock τ] in
theorem isApart_of_ended {x : Except Error (Option Classification)}
    (h : s.callers[n]? = some (.ended x)) : s.IsApart n :=
  fun _ hp ↦ .inr ⟨x, Option.some_inj.1 (hp.symm.trans h)⟩

theorem IsApart.step_move (h : s.IsApart n) (h' : (s.step (.move n sig)).IsApart n) :
    ∃ q k, s.step (.move n sig) = { s with callers := s.callers.set n q, guids := k } ∧
      ((∀ a, s.callers[n]? = some (.ask a) → a.guid.isTruthy = true) → k = s.guids) := by
  cases hp : s.callers[n]? with
  | none =>
    refine ⟨.close, s.guids, ?_, fun _ ↦ rfl⟩
    rw [step_move_of_none hp, List.set_eq_of_length_le (List.getElem?_eq_none_iff.1 hp)]
  | some p =>
    obtain ⟨k, hk, hg⟩ := moved_of_isApart (h p hp) (h' _ (caller_move hp sig))
    refine ⟨_, k, by rw [Session.step_move hp, hk], fun ha ↦ hg fun a hq ↦ ha a (by rw [hq])⟩

def Event.isMoveOf (n : Nat) : Event τ → Bool
  | .move m _ => m == n
  | _ => false

/-- The session with caller `n` at another place. -/
def instead (n : Nat) (p : Phase τ) (s : Session τ) : Session τ :=
  { s with callers := s.callers.set n p }

/-- What caller `n` does not do, each event with the number of guids that are drawn by then. -/
def others (n : Nat) (s : Session τ) (es : List (Event τ)) : List (Nat × Event τ) :=
  observed (fun s e ↦ if e.isMoveOf n then none else some (s.guids, e)) s es

/-- A run in which so many guids are drawn before each event as it says. -/
def runDrawing (es : List (Nat × Event τ)) (s : Session τ) : Session τ :=
  es.foldl (fun s x ↦ { s with guids := x.1 }.step x.2) s

omit [Clock τ] in
theorem set_concat {ps : List (Phase τ)} (h : ps.length = n → p = q) :
    ps.set n q ++ [p] = (ps ++ [p]).set n q := by
  rcases Nat.lt_trichotomy n ps.length with hn | rfl | hn
  · rw [List.set_append_left _ _ hn]
  · rw [List.set_append_right _ _ (Nat.le_refl _), List.set_eq_of_length_le (Nat.le_refl _), h rfl,
      Nat.sub_self]
    rfl
  · have hlen : (ps ++ [p]).length ≤ n := by rwa [List.length_append]
    rw [List.set_eq_of_length_le (Nat.le_of_lt hn), List.set_eq_of_length_le hlen]

theorem step_instead (hm : e.isMoveOf n = false) (hc : ∀ i, Comes n i s e → i.phase = q) :
    (s.instead n q).step e = (s.step e).instead n q := by
  by_cases hcall : ∃ i, e = .call i
  · obtain ⟨i, rfl⟩ := hcall
    have hcs := set_concat fun hn ↦ hc i ⟨rfl, hn⟩
    simp only [step, instead, hcs]
  by_cases hmove : ∃ m sig, e = .move m sig
  · obtain ⟨m, sig, rfl⟩ := hmove
    have hmn : n ≠ m := fun h ↦ by simp [Event.isMoveOf, h] at hm
    have hcs : (s.instead n q).callers[m]? = s.callers[m]? := List.getElem?_set_ne hmn
    cases hp : s.callers[m]? with
    | none => rw [step_move_of_none hp, step_move_of_none (hcs.trans hp)]
    | some p =>
      obtain ⟨new, hl, h⟩ := moved_recast s (s.callers.set n q) s.log m p sig
      have hr : s.instead n q = s.recast (s.callers.set n q) s.log := rfl
      rw [step_move hp, step_move (hcs.trans hp), hr, h, ← hl]
      simp only [instead, recast, List.set_comm _ _ hmn]
  · have hmove' : ∀ m sig, e ≠ .move m sig := fun m sig he ↦ hmove ⟨m, sig, he⟩
    obtain ⟨new, hl, h⟩ := s.step_recast (s.callers.set n q) s.log (not_exists.1 hcall) hmove'
    have hr : s.instead n q = s.recast (s.callers.set n q) s.log := rfl
    rw [hr, h, ← hl]
    simp only [instead, recast, callers_step_of_not_move (not_exists.1 hcall) hmove']

/-- Caller `n`, who came with `a`, might as well not have moved. -/
structure Traceless (n : Nat) (a : Ask τ) (s : Session τ) (es : List (Event τ)) : Prop where
  /-- Its moves change nothing but its own place, and how many guids are drawn. -/
  moves : ∀ es₁ sig es₂, es = es₁ ++ .move n sig :: es₂ → ∃ p k, (s.run es₁).step (.move n sig) =
    { s.run es₁ with callers := (s.run es₁).callers.set n p, guids := k }
  /-- The others alone come to the same, with the guids that they drew. -/
  others : ∃ k, s.runDrawing (s.others n es) = { (s.run es).instead n (.ask a) with guids := k }
  /-- If the caller chose its guid itself, they draw the same ones without it. -/
  given : a.guid.isTruthy = true →
    s.run (es.filter (!·.isMoveOf n)) = (s.run es).instead n (.ask a)

variable {es : List (Event τ)}

theorem Traceless.caller (h : Traceless n a s es) (hm : n ≠ m) :
    (s.runDrawing (s.others n es)).callers[m]? = (s.run es).callers[m]? := by
  obtain ⟨k, hk⟩ := h.others
  rw [hk]
  exact List.getElem?_set_ne hm

theorem runDrawing_concat (xs : List (Nat × Event τ)) (k : Nat) :
    s.runDrawing (xs ++ [(k, e)]) = { s.runDrawing xs with guids := k }.step e := by
  simp only [runDrawing, List.foldl_append, List.foldl_cons, List.foldl_nil]

theorem Traceless.concat_others (h : Traceless n a s es) (hm : e.isMoveOf n = false)
    (hc : ∀ i, Comes n i (s.run es) e → i = .ask a) : Traceless n a s (es ++ [e]) := by
  have hs : ((s.run es).instead n (.ask a)).step e = ((s.run es).step e).instead n (.ask a) :=
    step_instead hm fun i hi ↦ congrArg Invocation.phase (hc i hi)
  refine ⟨fun es₁ sig es₂ he ↦ ?_, ⟨((s.run es).step e).guids, ?_⟩, fun ht ↦ ?_⟩
  · obtain ⟨-, rfl⟩ | ⟨es₃, he'⟩ := eq_of_concat_eq he
    · simp [Event.isMoveOf] at hm
    · exact h.moves es₁ sig es₃ he'
  · obtain ⟨k, hk⟩ := h.others
    have hv : s.others n (es ++ [e]) = s.others n es ++ [((s.run es).guids, e)] := by
      simp [Session.others, observed_concat, hm]
    rw [hv, runDrawing_concat, hk, run_concat]
    exact hs
  · have hf : [e].filter (!·.isMoveOf n) = [e] := by simp [hm]
    rw [List.filter_append, hf, run_concat, h.given ht, hs, run_concat]

theorem Traceless.concat_move (h : Traceless n a s es) {q : Phase τ} {k : Nat}
    (hs : (s.run es).step (.move n sig) =
      { s.run es with callers := (s.run es).callers.set n q, guids := k })
    (hg : a.guid.isTruthy = true → k = (s.run es).guids) : Traceless n a s (es ++ [.move n sig]) := by
  have hm : (Event.move n sig : Event τ).isMoveOf n = true := by simp [Event.isMoveOf]
  refine ⟨fun es₁ sig' es₂ he ↦ ?_, ?_, fun ht ↦ ?_⟩
  · obtain ⟨rfl, he'⟩ | ⟨es₃, he'⟩ := eq_of_concat_eq he
    · rw [he']
      exact ⟨q, k, hs⟩
    · exact h.moves es₁ sig' es₃ he'
  · obtain ⟨k', hk⟩ := h.others
    have hv : s.others n (es ++ [.move n sig]) = s.others n es := observed_concat_none (if_pos hm)
    refine ⟨k', ?_⟩
    rw [hv, hk, run_concat, hs]
    simp only [instead, List.set_set]
  · have hf : [Event.move n sig].filter (!·.isMoveOf n) = ([] : List (Event τ)) := by simp [hm]
    rw [List.filter_append, hf, List.append_nil, h.given ht, run_concat, hs, hg ht]
    simp only [instead, List.set_set]

theorem Traceless.concat (h : Traceless n a s es) (hb : (s.run es).IsApart n)
    (hb' : ((s.run es).step e).IsApart n)
    (ha : ∀ a', (s.run es).callers[n]? = some (.ask a') → a' = a)
    (hc : ∀ i, Comes n i (s.run es) e → i = .ask a) : Traceless n a s (es ++ [e]) := by
  cases hm : e.isMoveOf n with
  | false => exact h.concat_others hm hc
  | true =>
    cases e with
    | move m sig =>
      obtain rfl : m = n := by simpa [Event.isMoveOf] using hm
      obtain ⟨q, k, hs, hg⟩ := hb.step_move hb'
      exact h.concat_move hs fun ht ↦ hg fun a' hp ↦ ha a' hp ▸ ht
    | call | frame | lost | reader | clock => cases hm

theorem Advance.ne_ask (h : Advance n s p sig p' s') : p' ≠ .ask a := by
  intro hp'
  have hb : p'.Before .first := hp' ▸ trivial
  obtain ⟨b, rfl⟩ | ⟨j, rfl⟩ | ⟨j, rfl⟩ := Phase.before_first_cases (h.before hb)
  all_goals cases h <;> cases hp'

variable {settings : Settings τ} {files : FileSystem}

theorem comes_of_ask (h : ((start settings files).run es).callers[n]? = some (.ask a)) :
    Occurs (Comes n (.ask a)) (start settings files) es := by
  induction es using List.reverseRecOn with
  | nil => simp [start] at h
  | append_singleton es e ih =>
    rw [run_concat] at h
    obtain ⟨hp, -⟩ | ⟨p, sig, -, -, -, -, hadv⟩ | ⟨a', rfl, hn, hp⟩ :=
      ask_step (show (Phase.ask a).IsAsk from trivial) h
    · exact (ih hp).concat e
    · exact absurd rfl hadv.ne_ask
    · cases hp
      exact occurs_concat.2 (.inr (comes_of_callers hn h))

theorem length_of_comes {i : Invocation τ} (h : Occurs (Comes n i) s es) :
    n < (s.run es).callers.length := by
  induction es using List.reverseRecOn with
  | nil => exact absurd h not_occurs_nil
  | append_singleton es e ih =>
    rw [run_concat]
    obtain h | ⟨rfl, hn⟩ := occurs_concat.1 h
    · have hp := List.getElem?_eq_getElem (ih h)
      obtain ⟨hp', -⟩ | ⟨sig, -, hp'⟩ := callers_step hp e
      all_goals exact (List.getElem?_eq_some_iff.1 hp').1
    · simp [step, hn]

theorem comes_unique {i i' : Invocation τ} (h : Occurs (Comes n i) s es)
    (h' : Occurs (Comes n i') s es) : i = i' := by
  induction es using List.reverseRecOn with
  | nil => exact absurd h not_occurs_nil
  | append_singleton es e ih =>
    obtain h | ⟨he, hn⟩ := occurs_concat.1 h <;> obtain h' | ⟨he', hn'⟩ := occurs_concat.1 h'
    · exact ih h h'
    · exact absurd hn' (Nat.ne_of_gt (length_of_comes h))
    · exact absurd hn (Nat.ne_of_gt (length_of_comes h'))
    · exact Event.call.inj (he.symm.trans he')

theorem NotYet.traceless (h : NotYet n .first ((start settings files).run es))
    (hc : ∀ i, Occurs (Comes n i) (start settings files) es → i = .ask a) :
    Traceless n a (start settings files) es := by
  induction es using List.reverseRecOn with
  | nil => exact ⟨fun _ _ _ he ↦ by simp at he, ⟨0, rfl⟩, fun _ ↦ rfl⟩
  | append_singleton es e ih =>
    rw [run_concat] at h
    have hb := h.of_step
    exact (ih hb fun i hi ↦ hc i (hi.concat e)).concat hb.isApart h.isApart
      (fun a' hp ↦ Invocation.ask.inj (hc _ ((comes_of_ask hp).concat e)))
      fun i hi ↦ hc i (occurs_concat.2 (.inr hi))

theorem EndsRefused.ended (h : EndsRefused n r s e) :
    (s.step e).callers[n]? = some (.ended (.error r)) := by
  obtain ⟨rfl, p, hp, hr⟩ := h
  rw [caller_move hp, (moved_eq_ended_iff hr.before).2 ⟨r, rfl, hr⟩]

theorem EndsRefused.notYet (h : EndsRefused n r s e) : NotYet n .first s := by
  obtain ⟨-, p, hp, hr⟩ := h
  exact fun q hq ↦ Option.some_inj.1 (hp.symm.trans hq) ▸ hr.before

theorem ended_of_refused (h : Occurs (EndsRefused n r) s es) :
    (s.run es).callers[n]? = some (.ended (.error r)) := by
  obtain ⟨es₁, e, es₂, rfl, hr⟩ := h
  rw [run_append, run_cons]
  exact ended_run hr.ended es₂

theorem traceless_of_refused (h : Occurs (EndsRefused n r) (start settings files) es)
    (hc : ∀ i, Occurs (Comes n i) (start settings files) es → i = .ask a) :
    Traceless n a (start settings files) es := by
  induction es using List.reverseRecOn with
  | nil => exact absurd h not_occurs_nil
  | append_singleton es e ih =>
    have hc' : ∀ i, Occurs (Comes n i) (start settings files) es → i = .ask a :=
      fun i hi ↦ hc i (hi.concat e)
    have ha : ∀ a', ((start settings files).run es).callers[n]? = some (.ask a') → a' = a :=
      fun a' hp ↦ Invocation.ask.inj (hc' _ (comes_of_ask hp))
    have hnew : ∀ i, Comes n i ((start settings files).run es) e → i = .ask a :=
      fun i hi ↦ hc i (occurs_concat.2 (.inr hi))
    -- Until it is refused the caller has not registered, and from then on it has ended.
    obtain h | hr := occurs_concat.1 h
    · have hend := ended_of_refused h
      exact (ih h hc').concat (isApart_of_ended hend) (isApart_of_ended (ended_stays hend e)) ha hnew
    · exact (hr.notYet.traceless hc').concat hr.notYet.isApart (isApart_of_ended hr.ended) ha hnew

/-- A call that is refused ends with the reason and leaves no trace: none of its steps writes a frame,
puts an upload on its way or changes the lifecycle, the session id or what is pending, and the other
callers fare, to the end of the run, as if it had come and not moved. -/
theorem refused_without_trace (h : Occurs (EndsRefused n r) (start settings files) es) :
    ((start settings files).run es).callers[n]? = some (.ended (.error r)) ∧
    ∃ a, Occurs (Comes n (.ask a)) (start settings files) es ∧
      Traceless n a (start settings files) es := by
  obtain ⟨es₁, e, es₂, rfl, he⟩ := id h
  obtain ⟨-, p, hp, hr⟩ := id he
  obtain ⟨a, ha⟩ := comes_of_isAsk hp hr.before.isAsk
  exact ⟨ended_of_refused h, a, ha.append _, traceless_of_refused h fun i hi ↦
    comes_unique hi (ha.append _)⟩

def Sample.rivalry : List (Event Int) :=
  opening ++ asking 1 (.url (.text "u")) "g" ++
    [.call (.ask ⟨.url (.text "v"), .text "g", none⟩), .move 2 .go, .move 2 .go]

def Sample.rivalryEnds : List (Event Int) :=
  rivalry ++ .move 2 .go :: [.move 1 (.written none), .frame (answer "g" "Clean"), .move 1 .go]

set_option maxRecDepth 100000 in
theorem Sample.rivalry_callers : ∃ p q j,
    ((start Sample.settings .empty).run Sample.rivalry).callers = [p, q, .register j] ∧
      ((start Sample.settings .empty).run Sample.rivalry).correlator.closed = none ∧
      ((start Sample.settings .empty).run Sample.rivalry).correlator.contains j.request.guid = true ∧
      j.request.guid = "g" :=
  ⟨_, _, _, by rfl, by rfl, by rfl, by rfl⟩

set_option maxRecDepth 100000 in
theorem Sample.rivalryEnds_callers :
    ((start Sample.settings .empty).run Sample.rivalryEnds).callers[1]? =
      some (.ended (.ok (some ⟨"", .clean, none⟩))) := by
  rfl

theorem Sample.rivalryEnds_refuses :
    Occurs (EndsRefused 2 (.state (.alreadyPending "g"))) (start Sample.settings .empty)
      Sample.rivalryEnds := by
  obtain ⟨p, q, j, hcs, hopen, hpending, hg⟩ := Sample.rivalry_callers
  refine ⟨Sample.rivalry, _, _, rfl, rfl, .register j, by rw [hcs]; rfl, ?_⟩
  rw [← hg]
  exact .pending hopen hpending

theorem refused_without_trace_rivalry :
    ((start Sample.settings .empty).run Sample.rivalryEnds).callers[2]? =
      some (.ended (.error (.state (.alreadyPending "g")))) ∧
    ((start Sample.settings .empty).runDrawing
        (others 2 (start Sample.settings .empty) Sample.rivalryEnds)).callers[1]? =
      some (.ended (.ok (some ⟨"", .clean, none⟩))) := by
  obtain ⟨hend, a, -, htrace⟩ := refused_without_trace Sample.rivalryEnds_refuses
  exact ⟨hend, (htrace.caller (by decide)).trans Sample.rivalryEnds_callers⟩

end VerdictClient.Session
