import VerdictClient.Proofs.Session.Deeds

namespace VerdictClient.Session

variable {τ : Type} [Clock τ]

/-- The first response is unknown and names this target to upload to. -/
def Demands (vs : List VerdictResponse) (x : Upload.Target) : Prop :=
  ∃ v, vs.head? = some v ∧ v.verdict = .unknown ∧ v.uploadTarget? = some (x.url, x.token)

/-- A wait until the moment `wake` is over because an answer came or because that moment has come. -/
inductive Stops (st : Stage) (wake : τ) : List (Deed τ) → Prop
  | answered : Stops st wake []
  | late {t} (h : Clock.lt t wake = false) : Stops st wake [.stops st t]

/-- A wait that began at the moment `t` and may last until `d` is in vain: its time is over, or nobody can
be made to wait so long. -/
inductive Fails (g : Text) (st : Stage) (t d : τ) : List (Deed τ) → Error → Prop
  | late {t'} (h : Clock.lt t' (Clock.wake t d) = false) :
      Fails g st t d [.stops st t'] (.timedOut (.noResponse g))
  | refused {t'} (h : Clock.outlasts (Clock.left t' d) = true) :
      Fails g st t d [.balks st t'] (.timeoutRange false)

def Asked (j : Job τ) (ds : List (Deed τ)) : Prop :=
  ∃ t₁ t₂ d ds', ds = .registers .first t₁ :: .waits .first t₂ :: ds' ∧
    Correlator.deadline t₁ j.timeout = .ok d ∧ Stops .first (Clock.wake t₂ d) ds'

/-- The caller has asked, and then it has called for the upload that the responses `vs` demand, which
put a request on the way or failed. -/
def Called (j : Job τ) (b : Upload.Content) (l : Option Value) (vs : List VerdictResponse)
    (put : Except Error Upload.Put) (ds : List (Deed τ)) : Prop :=
  ∃ ds' t x, ds = ds' ++ [.registers .final t, .uploads x b l put] ∧ Asked j ds' ∧ Demands vs x

/-- Caller `n` is kept from sending its request: its transport is closed, it cannot register, or its
frame cannot be made or written. -/
inductive Hindered (n : Nat) (s : Session τ) : Event τ → Error → Prop
  | shut {j} (hp : s.callers[n]? = some (.check j)) (h : s.transport?.all (·.closed) = true) :
      Hindered n s (.move n .go) (.closed .unnamed)
  | refused {j r} (hp : s.callers[n]? = some (.register j))
      (h : s.correlator.register s.now j.request.guid j.timeout false = .error r) :
      Hindered n s (.move n .go) r
  | unencodable {j k o r} (hp : s.callers[n]? = some (.send j k))
      (h : (Outbound.verdict j.request).encode = .error r) :
      Hindered n s (.move n (.written o)) (.unencodable r)
  | unwritten {j k o f r} (hp : s.callers[n]? = some (.send j k))
      (h : (Outbound.verdict j.request).encode = .ok f) (hw : (s.write f o).1 = .error r) :
      Hindered n s (.move n (.written o)) r

/-- How a caller ends whose content is `b`, by the responses `vs st` that it heard at each stage and
by its deeds, if `why` is what can have kept it from sending its request. -/
inductive Ends (j : Job τ) (b : Upload.Content) (l : Option Value) (vs : Stage → List VerdictResponse)
    (why : Error → Prop) : List (Deed τ) → Except Error (Option Classification) → Prop
  /-- Its request was not sent. -/
  | unsent {ds e} (h : ds = [] ∨ ∃ t, ds = [.registers .first t]) (he : why e) :
      Ends j b l vs why ds (.error e)
  /-- No response came as long as it waited. -/
  | silent {t₁ t₂ d ds e} (hd : Correlator.deadline t₁ j.timeout = .ok d)
      (hf : Fails j.request.guid .first t₂ d ds e) (hv : vs .first = []) :
      Ends j b l vs why (.registers .first t₁ :: .waits .first t₂ :: ds) (.error e)
  /-- The first response is not unknown. -/
  | direct {ds v} (h : Asked j ds) (hv : (vs .first).head? = some v) (hu : v.verdict ≠ .unknown) :
      Ends j b l vs why ds (.ok (some (.ofResponse v)))
  /-- The first response is unknown and names no target. -/
  | noTarget {ds v} (h : Asked j ds) (hv : (vs .first).head? = some v) (hu : v.verdict = .unknown)
      (hx : v.uploadTarget? = none) :
      Ends j b l vs why ds (.error (.upload (.noTarget j.request.guid)))
  /-- The upload failed before anything was put on the way. -/
  | unstarted {ds e} (h : Called j b l (vs .first) (.error e) ds) : Ends j b l vs why ds (.error e)
  /-- The upload failed. -/
  | failed {ds put e} (h : Called j b l (vs .first) (.ok put) ds) :
      Ends j b l vs why (ds ++ [.uploaded (.error e)]) (.error e)
  /-- After the call for the upload came a response that is not unknown. -/
  | final {ds put t d ds' v} (h : Called j b l (vs .first) (.ok put) ds)
      (hd : Correlator.deadline t j.timeout = .ok d) (hs : Stops .final (Clock.wake t d) ds')
      (hv : (vs .final).find? (·.verdict ≠ .unknown) = some v) :
      Ends j b l vs why (ds ++ .uploaded (.ok ()) :: .waits .final t :: ds') (.ok (some (.ofResponse v)))
  /-- After the call for the upload no such response came as long as it waited. -/
  | lapsed {ds put t d ds' e} (h : Called j b l (vs .first) (.ok put) ds)
      (hd : Correlator.deadline t j.timeout = .ok d) (hf : Fails j.request.guid .final t d ds' e)
      (hv : (vs .final).find? (·.verdict ≠ .unknown) = none) :
      Ends j b l vs why (ds ++ .uploaded (.ok ()) :: .waits .final t :: ds') (.error e)

/-- Where a caller stands by the responses that it has heard and by its deeds. -/
def Phase.OnCourse (j : Job τ) (b : Upload.Content) (l : Option Value)
    (vs : Stage → List VerdictResponse) (why : Error → Prop) (ds : List (Deed τ)) (s : Session τ) :
    Phase τ → Prop
  | .check j' | .register j' => j' = j ∧ ds = []
  | .send j' k => j' = j ∧ ∃ t u, ds = [.registers .first t] ∧ s.correlator.ticket? k = some u ∧
      Correlator.deadline t j.timeout = .ok u.deadline
  | .await j' .first k w => j' = j ∧ ∃ t₁ t₂ u, ds = [.registers .first t₁, .waits .first t₂] ∧
      s.correlator.ticket? k = some u ∧ Correlator.deadline t₁ j.timeout = .ok u.deadline ∧
      w = Clock.wake t₂ u.deadline
  | .expire j' .first _ => j' = j ∧ ∃ t₁ t₂ t₃ d,
      ds = [.registers .first t₁, .waits .first t₂, .stops .first t₃] ∧
      Correlator.deadline t₁ j.timeout = .ok d ∧ Clock.lt t₃ (Clock.wake t₂ d) = false
  | .registerFinal j' x b' l' => j' = j ∧ b' = b ∧ l' = l ∧ Asked j ds ∧ Demands (vs .first) x
  | .upload j' _ x b' l' => j' = j ∧ b' = b ∧ l' = l ∧ ∃ ds' t, ds = ds' ++ [.registers .final t] ∧
      Asked j ds' ∧ Demands (vs .first) x
  | .uploading j' _ _ _ => j' = j ∧ ∃ put, Called j b l (vs .first) (.ok put) ds
  | .restart j' _ => j' = j ∧ ∃ ds' put, ds = ds' ++ [.uploaded (.ok ())] ∧
      Called j b l (vs .first) (.ok put) ds'
  | .await j' .final k w => j' = j ∧ ∃ ds' put t u, ds = ds' ++ [.uploaded (.ok ()), .waits .final t] ∧
      Called j b l (vs .first) (.ok put) ds' ∧ s.correlator.ticket? k = some u ∧
      Correlator.deadline t j.timeout = .ok u.deadline ∧ w = Clock.wake t u.deadline
  | .expire j' .final _ => j' = j ∧ ∃ ds' put t₁ t₂ d,
      ds = ds' ++ [.uploaded (.ok ()), .waits .final t₁, .stops .final t₂] ∧
      Called j b l (vs .first) (.ok put) ds' ∧ Correlator.deadline t₁ j.timeout = .ok d ∧
      Clock.lt t₂ (Clock.wake t₁ d) = false
  | .abandon _ e => Ends j b l vs why ds (.error e)
  | .ended r => Ends j b l vs why ds r
  | _ => False

variable {s s' : Session τ} {os : List Nat} {e : Event τ} {n k : Nat} {p p' : Phase τ} {sig : Signal}
  {j : Job τ} {st : Stage} {b : Upload.Content} {l : Option Value}
  {vs : Stage → List VerdictResponse} {why why' : Error → Prop} {ds : List (Deed τ)}

omit [Clock τ] in
theorem Demands.append {us : List VerdictResponse} {x : Upload.Target} (h : Demands us x)
    (ws : List VerdictResponse) : Demands (us ++ ws) x := by
  obtain ⟨v, hv, hu, hx⟩ := h
  exact ⟨v, by rw [List.head?_append, hv]; rfl, hu, hx⟩

theorem Called.append {us : List VerdictResponse} {put : Except Error Upload.Put}
    (h : Called j b l us put ds) (ws : List VerdictResponse) : Called j b l (us ++ ws) put ds := by
  obtain ⟨ds', t, x, hds, ha, hx⟩ := h
  exact ⟨ds', t, x, hds, ha, hx.append ws⟩

theorem Phase.OnCourse.isAsk_or_ended (h : p.OnCourse j b l vs why ds s) :
    p.IsAsk ∨ ∃ r, p = .ended r := by
  cases p with
  | ended r => exact .inr ⟨r, rfl⟩
  | check | register | send | await | expire | registerFinal | upload | uploading | restart
  | abandon => exact .inl trivial
  | _ => exact h.elim

theorem accepts_final : Stage.final.accepts = fun v ↦ decide (v.verdict ≠ .unknown) := by
  funext v
  by_cases hv : v.verdict = .unknown <;> simp [Stage.accepts, Stage.isFinal, hv]

theorem Ends.mono {r : Except Error (Option Classification)} (h : Ends j b l vs why ds r)
    (hw : ∀ e, why e → why' e) : Ends j b l vs why' ds r := by
  cases h with
  | unsent hds he => exact .unsent hds (hw _ he)
  | silent hd hf hv => exact .silent hd hf hv
  | direct ha hv hu => exact .direct ha hv hu
  | noTarget ha hv hu hx => exact .noTarget ha hv hu hx
  | unstarted hc => exact .unstarted hc
  | failed hc => exact .failed hc
  | final hc hd hs hv => exact .final hc hd hs hv
  | lapsed hc hd hf hv => exact .lapsed hc hd hf hv

omit [Clock τ] in
theorem heard?_of_not_hold (hp : s.callers[n]? = some p) (hh : p.hold? = none) (e : Event τ) :
    s.heard? n st e = none := by
  simp [heard?, hp, hh]

theorem Ledger.deadline_step (h : Ledger s os) {u : Ticket τ} (hp : s.callers[n]? = some p)
    (hh : p.hold? = some (j, st, k)) (hr : ∀ j, p ≠ .restart j k) (hu : s.correlator.ticket? k = some u)
    (e : Event τ) : ∃ u', (s.step e).correlator.ticket? k = some u' ∧ u'.deadline = u.deadline := by
  obtain ⟨hk, ⟨u', hu', -, -, hw⟩, -⟩ := h.held hp hh
  obtain rfl : u = u' := Option.some_inj.1 (hu.symm.trans hu')
  obtain ⟨he, -⟩ | ⟨a, ha, he⟩ := s.correlator_step e
  · exact ⟨u, he ▸ hu, rfl⟩
  -- Only its owner moves the deadline of a ticket.
  have hd : a.deadline k u.deadline = u.deadline := by
    cases ha with
    | @restart m j' k' d hm =>
      refine if_neg fun hkk ↦ ?_
      subst hkk
      obtain rfl : m = n := Option.some_inj.1 ((h.held hm rfl).owner.symm.trans hk)
      exact hr j' (Option.some_inj.1 (hp.symm.trans hm))
    | enroll | resolve | discard | forget | close | lose => rfl
  rw [he]
  by_cases hn : s.correlator.IsWaiting k
  · obtain ⟨o, -, -, hu''⟩ | ⟨-, -, hu''⟩ | ⟨-, -, hu''⟩ := h.sound.after_of_waiting hu hn a
    · exact ⟨_, hu'', rfl⟩
    · exact ⟨_, hu'', rfl⟩
    · exact ⟨_, hu'', hd⟩
  · obtain ⟨-, hu''⟩ := h.sound.after_of_not_waiting hu hn a
    exact ⟨_, hu'', hd⟩

theorem Phase.OnCourse.stay (h : p.OnCourse j b l vs why ds s) (hl : Ledger s os)
    (hp : s.callers[n]? = some p) (hw : ∀ r, why r → why' r) (e : Event τ) :
    p.OnCourse j b l (fun st ↦ vs st ++ (s.heard? n st e).toList) why' ds (s.step e) := by
  cases p with
  | check | register => exact h
  | send j' k =>
    obtain ⟨rfl, t, u, rfl, hu, hd⟩ := h
    obtain ⟨u', hu', hdl⟩ := hl.deadline_step hp rfl (by simp) hu e
    exact ⟨rfl, t, u', rfl, hu', hdl ▸ hd⟩
  | await j' st k w =>
    cases st with
    | first =>
      obtain ⟨rfl, t₁, t₂, u, rfl, hu, hd, hwake⟩ := h
      obtain ⟨u', hu', hdl⟩ := hl.deadline_step hp rfl (by simp) hu e
      exact ⟨rfl, t₁, t₂, u', rfl, hu', hdl ▸ hd, hdl ▸ hwake⟩
    | final =>
      obtain ⟨rfl, ds', put, t, u, rfl, hc, hu, hd, hwake⟩ := h
      obtain ⟨u', hu', hdl⟩ := hl.deadline_step hp rfl (by simp) hu e
      exact ⟨rfl, ds', put, t, u', rfl, hc.append _, hu', hdl ▸ hd, hdl ▸ hwake⟩
  | expire j' st k =>
    cases st with
    | first => exact h
    | final =>
      obtain ⟨rfl, ds', put, t₁, t₂, d, rfl, hc, hd, hlt⟩ := h
      exact ⟨rfl, ds', put, t₁, t₂, d, rfl, hc.append _, hd, hlt⟩
  | registerFinal j' x b' l' =>
    obtain ⟨rfl, rfl, rfl, ha, hx⟩ := h
    exact ⟨rfl, rfl, rfl, ha, hx.append _⟩
  | upload j' k x b' l' =>
    obtain ⟨rfl, rfl, rfl, ds', t, rfl, ha, hx⟩ := h
    exact ⟨rfl, rfl, rfl, ds', t, rfl, ha, hx.append _⟩
  | uploading j' k x b' =>
    obtain ⟨rfl, put, hc⟩ := h
    exact ⟨rfl, put, hc.append _⟩
  | restart j' k =>
    obtain ⟨rfl, ds', put, rfl, hc⟩ := h
    exact ⟨rfl, ds', put, rfl, hc.append _⟩
  | abandon | ended =>
    simp only [heard?_of_not_hold hp rfl e, Option.toList_none, List.append_nil]
    exact Ends.mono h hw
  | _ => exact h.elim

theorem onCourse_received_first {v : VerdictResponse} (hj : j.content = some (b, l))
    (ha : Asked j ds) (hv : (vs .first).find? Stage.first.accepts = some v) :
    (received j .first (.ok v)).OnCourse j b l vs why ds s := by
  rw [find?_first] at hv
  simp only [received, hj]
  split
  · next hu =>
    split
    · next hx => exact .noTarget ha hv hu hx
    · next hx => exact ⟨rfl, rfl, rfl, ha, v, hv, hu, hx⟩
  · next hu => exact .direct ha hv hu

/-- A caller that waits and gets a response is on course, noticing it before the deadline or after it. -/
theorem Phase.OnCourse.answered {j' : Job τ} {w : τ} {v : VerdictResponse}
    (h : (Phase.await j' st k w).OnCourse j b l vs why ds s) (hj : j.content = some (b, l))
    (hv : (vs st).find? st.accepts = some v) : (received j' st (.ok v)).OnCourse j b l vs why' ds s' := by
  cases st with
  | first =>
    obtain ⟨rfl, t₁, t₂, u, rfl, -, hd, rfl⟩ := h
    exact onCourse_received_first hj ⟨t₁, t₂, _, [], rfl, hd, .answered⟩ hv
  | final =>
    obtain ⟨rfl, ds', put, t, u, rfl, hcall, -, hd, rfl⟩ := h
    exact .final hcall hd .answered (accepts_final ▸ hv)

theorem Phase.OnCourse.answeredLate {j' : Job τ} {v : VerdictResponse}
    (h : (Phase.expire j' st k).OnCourse j b l vs why ds s) (hj : j.content = some (b, l))
    (hv : (vs st).find? st.accepts = some v) : (received j' st (.ok v)).OnCourse j b l vs why' ds s' := by
  cases st with
  | first =>
    obtain ⟨rfl, t₁, t₂, t₃, d, rfl, hd, hlt⟩ := h
    exact onCourse_received_first hj ⟨t₁, t₂, d, _, rfl, hd, .late hlt⟩ hv
  | final =>
    obtain ⟨rfl, ds', put, t₁, t₂, d, rfl, hcall, hd, hlt⟩ := h
    exact .final hcall hd (.late hlt) (accepts_final ▸ hv)

/-- A caller that waits in vain ends as it should, refused or out of time. -/
theorem Phase.OnCourse.balked {j' : Job τ} {w : τ} {u : Ticket τ}
    (h : (Phase.await j' st k w).OnCourse j b l vs why ds s) (hu : s.correlator.ticket? k = some u)
    (hlong : Correlator.outlasts s.now u = true) (hv : (vs st).find? st.accepts = none) :
    Ends j b l vs why' (ds ++ [.balks st s.now]) (.error (.timeoutRange false)) := by
  cases st with
  | first =>
    obtain ⟨rfl, t₁, t₂, u', rfl, hu', hd, rfl⟩ := h
    obtain rfl := Option.some_inj.1 (hu.symm.trans hu')
    rw [find?_first, List.head?_eq_none_iff] at hv
    exact .silent hd (.refused hlong) hv
  | final =>
    obtain ⟨rfl, ds', put, t, u', rfl, hcall, hu', hd, rfl⟩ := h
    obtain rfl := Option.some_inj.1 (hu.symm.trans hu')
    rw [List.append_assoc]
    exact .lapsed hcall hd (.refused hlong) (accepts_final ▸ hv)

theorem Phase.OnCourse.lapsed {j' : Job τ} (h : (Phase.expire j' st k).OnCourse j b l vs why ds s)
    (hv : (vs st).find? st.accepts = none) :
    Ends j b l vs why' ds (.error (.timedOut (.noResponse j'.request.guid))) := by
  cases st with
  | first =>
    obtain ⟨rfl, t₁, t₂, t₃, d, rfl, hd, hlt⟩ := h
    rw [find?_first, List.head?_eq_none_iff] at hv
    exact .silent hd (.late hlt) hv
  | final =>
    obtain ⟨rfl, ds', put, t₁, t₂, d, rfl, hcall, hd, hlt⟩ := h
    exact .lapsed hcall hd (.late hlt) (accepts_final ▸ hv)

theorem onCourse_uploadFailed {r : Error} (h : Ends j b l vs why ds (.error r)) (j' : Job τ) :
    (uploadFailed j' r).OnCourse j b l vs why ds s := by
  cases r <;> exact h

theorem Asked.deadline (h : Asked j ds) : ∃ t d, Correlator.deadline t j.timeout = .ok d := by
  obtain ⟨t, -, d, -, -, hd, -⟩ := h
  exact ⟨t, d, hd⟩

theorem Called.deadline {us : List VerdictResponse} {put : Except Error Upload.Put}
    (h : Called j b l us put ds) : ∃ t d, Correlator.deadline t j.timeout = .ok d := by
  obtain ⟨ds', t, x, -, ha, -⟩ := h
  exact ha.deadline

theorem exists_deadline (h : ∃ t d, Correlator.deadline t j.timeout = .ok d) (t : τ) :
    ∃ d, Correlator.deadline t j.timeout = .ok d := by
  obtain ⟨t', d, hd⟩ := h
  obtain ⟨span, hspan, -⟩ := Correlator.deadline_eq_ok_iff.1 hd
  exact ⟨_, Correlator.deadline_eq_ok_iff.2 ⟨span, hspan, rfl⟩⟩

theorem Clear.register_final (h : Clear n s) (ha : Alone n s) (hask : Asked j ds)
    {x : Upload.Target} (hp : s.callers[n]? = some (.registerFinal j x b l)) :
    ∃ k c, s.correlator.register s.now j.request.guid j.timeout true = .ok (k, c) := by
  obtain ⟨d, hd⟩ := exists_deadline hask.deadline s.now
  have hc := (ha _ (usedBy?_of hp rfl)).1
  have hg := Correlator.contains_eq_false_iff.2 (h.free hp)
  exact ⟨_, _, Correlator.register_eq_ok_iff.2 ⟨hc, hg, rfl, d, hd, rfl⟩⟩

theorem Phase.OnCourse.advance (h : p.OnCourse j b l vs why ds s) (hj : j.content = some (b, l))
    (hl : Ledger s os) (hh : Heard n s vs) (hc : Clear n s) (ha : Alone n s)
    (hp : s.callers[n]? = some p) (hadv : Advance n s p sig p' s')
    (hs : (s.step (.move n sig)).correlator = s'.correlator) (hw : ∀ r, why r → why' r)
    (hhin : ∀ r, Hindered n s (.move n sig) r → why' r) :
    p'.OnCourse j b l vs why' (ds ++ (s.deedOf? p sig p').toList) (s.step (.move n sig)) := by
  cases hadv with
  | refuse | prepare => exact h.elim
  | shut hsh =>
    obtain ⟨rfl, rfl⟩ := h
    exact .unsent (.inl rfl) (hhin _ (.shut hp hsh))
  | deny hr =>
    obtain ⟨rfl, rfl⟩ := h
    exact .unsent (.inl rfl) (hhin _ (.refused hp hr))
  | check =>
    obtain ⟨rfl, rfl⟩ := h
    exact ⟨rfl, rfl⟩
  | register hr =>
    obtain ⟨rfl, rfl⟩ := h
    obtain ⟨-, -, rfl, d, hd, rfl⟩ := Correlator.register_eq_ok_iff.1 hr
    exact ⟨rfl, s.now, _, rfl, by rw [hs]; exact ticket?_enroll, hd⟩
  | unencodable he =>
    obtain ⟨rfl, t, u, rfl, -⟩ := h
    exact .unsent (.inr ⟨t, rfl⟩) (hhin _ (.unencodable hp he))
  | breakOff he hwr | breakClosed he hwr =>
    obtain ⟨rfl, t, u, rfl, -⟩ := h
    exact .unsent (.inr ⟨t, rfl⟩) (hhin _ (.unwritten hp he (congrArg Prod.fst hwr)))
  | written _ hwr =>
    obtain ⟨rfl, t, u, rfl, hu, hd⟩ := h
    obtain ⟨c, rfl⟩ := write_eq hwr
    refine ⟨rfl, t, s.now, u, rfl, hs ▸ hu, hd, ?_⟩
    simp only [wakeOf, correlator] at hu ⊢
    rw [hu]
  | @linger j' st k w sig hlin =>
    have hd : s.deedOf? (.await j' st k w) sig (.await j' st k w) = none := by
      cases sig <;> rfl
    rw [hd, Option.toList_none, List.append_nil]
    simp only [Phase.OnCourse, hs]
    cases st <;> exact h
  | @settle j' st k w u a hu hans =>
    -- The answer is a response: nobody fails or cancels the ticket.
    obtain ⟨v, rfl, hv⟩ := hc.answer hh hp rfl hu hans
    rw [deedOf?_received, Option.toList_none, List.append_nil]
    exact h.answered hj hv
  | balk hu hopen hlong => exact h.balked hu hlong ((hh.answered hp rfl hu).1 hopen)
  | @strike j' st k w hlt =>
    cases st with
    | first =>
      obtain ⟨rfl, t₁, t₂, u, rfl, -, hd, rfl⟩ := h
      exact ⟨rfl, t₁, t₂, s.now, _, rfl, hd, hlt⟩
    | final =>
      obtain ⟨rfl, ds', put, t, u, rfl, hcall, -, hd, rfl⟩ := h
      exact ⟨rfl, ds', put, t, s.now, _, by simp [deedOf?], hcall, hd, hlt⟩
  | @expire j' st k u hu =>
    rw [deedOf?_expire, Option.toList_none, List.append_nil]
    obtain ⟨v, hv, hf⟩ | ⟨hv, hf⟩ := hc.lateAnswer hl hh hp rfl hu <;> rw [hv]
    · exact h.answeredLate hj hf
    · exact h.lapsed hf
  | lose hu =>
    obtain ⟨-, ⟨u, hu', -⟩, -⟩ := hl.held hp rfl
    cases hu'.symm.trans hu
  | denyFinal hr =>
    -- The first answer has taken the only entry under the guid off the map.
    obtain ⟨rfl, rfl, rfl, hask, hx⟩ := h
    obtain ⟨k, c, hok⟩ := hc.register_final ha hask hp
    cases hr.symm.trans hok
  | registerFinal hr =>
    obtain ⟨rfl, rfl, rfl, hask, hx⟩ := h
    exact ⟨rfl, rfl, rfl, ds, s.now, rfl, hask, hx⟩
  | failUpload hst =>
    obtain ⟨rfl, rfl, rfl, ds', t, rfl, hask, hx⟩ := h
    refine onCourse_uploadFailed (.unstarted ⟨ds', t, _, ?_, hask, hx⟩) _
    simp [deedOf?, hst]
  | @upload j' k x b' l' put hst =>
    obtain ⟨rfl, rfl, rfl, ds', t, rfl, hask, hx⟩ := h
    refine ⟨rfl, put, ds', t, x, ?_, hask, hx⟩
    simp [deedOf?, hst]
  | refuseUpload hf =>
    obtain ⟨rfl, put, hcall⟩ := h
    refine onCourse_uploadFailed ?_ _
    simp only [deedOf?, hf]
    exact .failed hcall
  | finishUpload hf =>
    obtain ⟨rfl, put, hcall⟩ := h
    exact ⟨rfl, ds, put, by simp [deedOf?, hf, Except.map], hcall⟩
  | denyRestart hr =>
    -- The timeout gave a deadline when the caller registered.
    obtain ⟨rfl, ds', put, rfl, hcall⟩ := h
    obtain ⟨d, hd⟩ := exists_deadline hcall.deadline s.now
    cases hr.symm.trans hd
  | @restart j' k d _ hr =>
    obtain ⟨rfl, ds', put, rfl, hcall⟩ := h
    obtain ⟨-, ⟨u, hu, -⟩, -⟩ := hl.held hp rfl
    have hu' : (s.correlator.restart k d).ticket? k = some { u with deadline := d } := by
      rw [Correlator.ticket?_restart, hu, Option.map_some, if_pos rfl]
    refine ⟨rfl, ds', put, s.now, { u with deadline := d }, by simp [deedOf?], hcall, ?_, hr, ?_⟩
    · rw [hs]
      exact hu'
    simp only [wakeOf, withCorrelator, correlator] at hu' ⊢
    rw [hu']
  | abandon =>
    rw [deedOf?_abandon, Option.toList_none, List.append_nil]
    exact Ends.mono h hw

variable {settings : Settings τ} {files : FileSystem} {es : List (Event τ)} {a : Ask τ}

theorem Prepares.deeds_eq_nil (h : Prepares n a j (s.run es) e) : deeds n s (es ++ [e]) = [] := by
  have hn : NotYet n .first ((s.run es).step e) := fun p hp ↦
    Option.some_inj.1 (h.step.symm.trans hp) ▸ trivial
  exact Session.deeds_eq_nil (run_concat s es e ▸ hn)

theorem onCourse_run (h : Occurs (Prepares n a j) (start settings files) es)
    (ha : a.query.content? = some (b, l)) (hu : Undisturbed n (start settings files) es) :
    ∃ p, ((start settings files).run es).callers[n]? = some p ∧
      p.OnCourse j b l (heard n · (start settings files) es)
        (fun r ↦ Occurs (Hindered n · · r) (start settings files) es)
        (deeds n (start settings files) es) ((start settings files).run es) := by
  induction es using List.reverseRecOn with
  | nil => exact absurd h not_occurs_nil
  | append_singleton es e ih =>
    rcases occurs_concat.1 h with h' | hprep
    · have hj : j.content = some (b, l) := by
        obtain ⟨_, _, _, _, -, -, hprep⟩ := h'
        rw [content_of_prepare hprep, ha]
      obtain ⟨hes, hal, -⟩ := hu.of_concat
      have hl := ledger_run settings files es
      obtain ⟨p, hp, hcourse⟩ := ih h' hes
      simp only [run_concat, heard, deeds, observed_concat]
      obtain ⟨hp', ht⟩ | ⟨sig, p', s', rfl, hadv, hs, hp'⟩ := call_goes hp hcourse.isAsk_or_ended e
      · refine ⟨p, hp', ?_⟩
        rw [deed?_of_stay hp ht, Option.toList_none, List.append_nil]
        exact hcourse.stay hl hp (fun _ hr ↦ hr.concat e) e
      · refine ⟨p', hp', ?_⟩
        rw [deed?_of_step hp hp']
        simp only [heard?_move, Option.toList_none, List.append_nil]
        exact hcourse.advance hj hl (heard_run settings files n es) (clear_run hes) hal hp hadv
          (by rw [hs]; rfl) (fun _ hr ↦ hr.concat _) fun _ hr ↦ occurs_concat.2 (.inr hr)
    · rw [run_concat, hprep.deeds_eq_nil]
      exact ⟨.check j, hprep.step, rfl, rfl⟩

end VerdictClient.Session
