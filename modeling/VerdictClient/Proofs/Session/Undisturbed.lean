import VerdictClient.Proofs.Session.Chronicle

namespace VerdictClient.Session

variable {τ : Type}

def Phase.guid? : Phase τ → Option Text
  | .check j | .register j | .send j _ | .await j _ _ _ | .expire j _ _ | .registerFinal j _ _ _
  | .upload j _ _ _ _ | .uploading j _ _ _ | .restart j _ => some j.request.guid
  | .abandon g _ => some g
  | _ => none

def usedBy? (n : Nat) (s : Session τ) : Option Text := (s.callers[n]?).bind Phase.guid?

theorem usedBy?_lt {n : Nat} {s : Session τ} {g : Text} (h : s.usedBy? n = some g) :
    n < s.callers.length := by
  obtain ⟨p, hp, -⟩ := Option.bind_eq_some_iff.1 h
  exact (List.getElem?_eq_some_iff.1 hp).1

/-- If the caller uses a guid, no other caller does, and the correlator is open. -/
def Alone (n : Nat) (s : Session τ) : Prop :=
  ∀ g, s.usedBy? n = some g → s.correlator.closed = none ∧ ∀ m, s.usedBy? m = some g → m = n

variable {s : Session τ} {os : List Nat} {n m k k' : Nat} {j : Job τ} {st : Stage} {p p' : Phase τ}
  {g : Text}

instance (n : Nat) (s : Session τ) : Decidable (Alone n s) :=
  decidable_of_iff (∀ g ∈ s.usedBy? n, s.correlator.closed = none ∧
    ∀ m < s.callers.length, s.usedBy? m = some g → m = n) <| by
    refine forall₂_congr fun g _ ↦ and_congr_right fun _ ↦ forall_congr' fun m ↦ ?_
    refine ⟨fun h hm ↦ h (usedBy?_lt hm) hm, fun h _ hm ↦ h hm⟩

theorem usedBy?_of (hp : s.callers[n]? = some p) (hg : p.guid? = some g) : s.usedBy? n = some g := by
  rw [usedBy?, hp, Option.bind_some, hg]

theorem Phase.guid?_of_hold? (h : p.hold? = some (j, st, k)) : p.guid? = some j.request.guid := by
  cases p with
  | send | await | expire | upload | uploading | restart =>
    cases h
    rfl
  | _ => cases h

theorem Phase.guid?_of_registers? (h : p.registers? = some (j, st)) :
    p.guid? = some j.request.guid ∧ p.hold? = none := by
  cases p with
  | register | registerFinal =>
    cases h
    exact ⟨rfl, rfl⟩
  | _ => cases h

theorem received_eq_registerFinal {j' : Job τ} {a : Except Error VerdictResponse}
    {x : Upload.Target} {b : Upload.Content} {l : Option Value}
    (h : received j st a = .registerFinal j' x b l) :
    ∃ v, a = .ok v ∧ j' = j ∧ st = .first ∧ j.content = some (b, l) ∧ v.verdict = .unknown ∧
      v.uploadTarget? = some (x.url, x.token) := by
  unfold received at h
  split at h
  · cases h
  · next v =>
    split at h
    · next hj =>
      split at h
      · next hv =>
        split at h
        · cases h
        · next hx =>
          cases h
          exact ⟨v, rfl, rfl, rfl, hj, hv, hx⟩
      · cases h
    · cases h

theorem uploadFailed_ne_registerFinal {j' : Job τ} {r : Error} {x : Upload.Target}
    {b : Upload.Content} {l : Option Value} : uploadFailed j r ≠ .registerFinal j' x b l := by
  cases r <;> exact fun h ↦ by cases h

variable [Clock τ] {e : Event τ}

def Undisturbed (n : Nat) (s : Session τ) (es : List (Event τ)) : Prop :=
  ∀ es', es' <+: es → Alone n (s.run es')

theorem undisturbed_nil : Undisturbed n s ([] : List (Event τ)) ↔ Alone n s :=
  ⟨fun h ↦ h [] List.nil_prefix, fun h _ he ↦ List.prefix_nil.1 he ▸ h⟩

theorem undisturbed_cons {es : List (Event τ)} :
    Undisturbed n s (e :: es) ↔ Alone n s ∧ Undisturbed n (s.step e) es := by
  refine ⟨fun h ↦ ⟨h [] List.nil_prefix, fun es' he ↦ h (e :: es') (List.cons_prefix_cons.2 ⟨rfl, he⟩)⟩, ?_⟩
  rintro ⟨h, hes⟩ es' he
  obtain rfl | ⟨es'', rfl, he''⟩ := List.prefix_cons_iff.1 he
  · exact h
  · exact hes es'' he''

instance decidableUndisturbed (n : Nat) :
    (s : Session τ) → (es : List (Event τ)) → Decidable (Undisturbed n s es)
  | _, [] => decidable_of_iff _ undisturbed_nil.symm
  | s, e :: es =>
    have := decidableUndisturbed n (s.step e) es
    decidable_of_iff _ undisturbed_cons.symm

theorem Undisturbed.of_concat {es : List (Event τ)} (h : Undisturbed n s (es ++ [e])) :
    Undisturbed n s es ∧ Alone n (s.run es) ∧ Alone n ((s.run es).step e) :=
  ⟨fun es' he ↦ h es' (he.trans (List.prefix_append ..)), h es (List.prefix_append ..),
    run_concat s es e ▸ h _ (List.prefix_refl _)⟩

theorem mem_pending_step (h : (g, k) ∈ (s.step e).correlator.pending) :
    (g, k) ∈ s.correlator.pending ∨ ∃ m p j st, e = .move m .go ∧ s.callers[m]? = some p ∧
      p.registers? = some (j, st) ∧ j.request.guid = g := by
  obtain ⟨he, -⟩ | ⟨a, ha, he⟩ := s.correlator_step e
  · exact .inl (he ▸ h)
  · obtain hm | ⟨-, d, fo, rfl⟩ := Correlator.mem_pending_after (he ▸ h)
    · exact .inl hm
    · cases ha with
      | enroll hp hj => exact .inr ⟨_, _, _, _, rfl, hp, hj, rfl⟩

theorem Alone.mem_pending (ha : Alone n s) (hp : s.callers[n]? = some p) (hg : p.guid? = some g)
    (hr : e = .move n .go → p.registers? = none)
    (h : (g, k) ∈ (s.step e).correlator.pending) : (g, k) ∈ s.correlator.pending := by
  obtain h | ⟨m, q, j, st, rfl, hq, hj, rfl⟩ := mem_pending_step h
  · exact h
  · obtain rfl := (ha _ (usedBy?_of hp hg)).2 m (usedBy?_of hq (Phase.guid?_of_registers? hj).1)
    obtain rfl : p = q := Option.some_inj.1 (hp.symm.trans hq)
    cases (hr rfl).symm.trans hj

/-- The ticket of the caller is the only one under its guid, and it is unsettled or answered. -/
structure Clear (n : Nat) (s : Session τ) : Prop where
  holds : ∀ {p j st k}, s.callers[n]? = some p → Phase.hold? p = some (j, st, k) →
    (∀ k', (j.request.guid, k') ∈ s.correlator.pending → k' = k) ∧
    ∀ t, s.correlator.ticket? k = some t → t.outcome = .pending ∨ ∃ v, t.outcome = .done v
  free : ∀ {j x b l}, s.callers[n]? = some (.registerFinal j x b l) →
    ∀ k, (j.request.guid, k) ∉ s.correlator.pending

theorem Clear.of_hold (h : Clear n s) (hl : Ledger s os) (ha : Alone n s) (ha' : Alone n (s.step e))
    (hp : s.callers[n]? = some p) (hh : p.hold? = some (j, st, k))
    (hp' : (s.step e).callers[n]? = some p') (hh' : p'.hold? = some (j, st, k)) :
    (∀ k', (j.request.guid, k') ∈ (s.step e).correlator.pending → k' = k) ∧
    ∀ t, (s.step e).correlator.ticket? k = some t → t.outcome = .pending ∨ ∃ v, t.outcome = .done v := by
  obtain ⟨honly, hout⟩ := h.holds hp hh
  have hg := Phase.guid?_of_hold? hh
  have hr : p.registers? = none := by
    cases p with
    | register | registerFinal => cases hh
    | _ => rfl
  refine ⟨fun k' hk' ↦ honly k' (ha.mem_pending hp hg (fun _ ↦ hr) hk'), fun t' ht' ↦ ?_⟩
  obtain ⟨-, ⟨t, ht, htg, -, hw⟩, -⟩ := hl.held hp hh
  obtain ⟨t'', ht'', hcase⟩ := outcome_step hl.sound ht hw e
  obtain rfl : t'' = t' := Option.some_inj.1 (ht''.symm.trans ht')
  obtain ⟨ho, -⟩ | ⟨-, v, hv, -⟩ | ⟨-, ⟨m, r, rfl, hm, -⟩ | ⟨hc, -⟩⟩ := hcase
  · rw [ho]
    exact hout t ht
  · exact .inr ⟨v, hv⟩
  · -- Giving up under this guid would be a use of it.
    obtain rfl := (ha _ (usedBy?_of hp hg)).2 m (usedBy?_of hm (htg ▸ rfl))
    obtain rfl : p = _ := Option.some_inj.1 (hp.symm.trans hm)
    cases hh
  · rw [(ha' _ (usedBy?_of hp' (Phase.guid?_of_hold? hh'))).1] at hc
    cases hc

theorem Clear.of_register {c : Correlator τ} (hp : s.callers[n]? = some p)
    (hs : (s.moved n p .go).2 = s.withCorrelator c)
    (hreg : s.correlator.register s.now j.request.guid j.timeout st.isFinal = .ok (k, c)) :
    (∀ k', (j.request.guid, k') ∈ (s.step (.move n .go)).correlator.pending → k' = k) ∧
    ∀ t, (s.step (.move n .go)).correlator.ticket? k = some t →
      t.outcome = .pending ∨ ∃ v, t.outcome = .done v := by
  obtain ⟨-, hg, -⟩ := Correlator.register_eq_ok_iff.1 hreg
  obtain ⟨rfl, -, d, hcor⟩ := correlator_of_register hp hs hreg
  rw [hcor]
  refine ⟨fun k' hk' ↦ ?_, fun t ht ↦ ?_⟩
  · obtain hm | hm := List.mem_append.1 hk'
    · exact absurd hm (Correlator.contains_eq_false_iff.1 hg k')
    · exact congrArg Prod.snd (List.mem_singleton.1 hm)
  · rw [ticket?_enroll] at ht
    exact .inl (Option.some_inj.1 ht ▸ rfl)

theorem Clear.holds_step (h : Clear n s) (hl : Ledger s os) (ha : Alone n s)
    (ha' : Alone n (s.step e)) (hp' : (s.step e).callers[n]? = some p')
    (hh : p'.hold? = some (j, st, k)) :
    (∀ k', (j.request.guid, k') ∈ (s.step e).correlator.pending → k' = k) ∧
    ∀ t, (s.step e).correlator.ticket? k = some t → t.outcome = .pending ∨ ∃ v, t.outcome = .done v := by
  obtain ⟨hp, -⟩ | ⟨p, sig, rfl, -, -, hp, hadv⟩ | ⟨a, -, -, rfl⟩ :=
    ask_step (Phase.isAsk_of_hold? hh) hp'
  · exact h.of_hold hl ha ha' hp hh hp' hh
  · obtain hh' | ⟨-, rfl, c, hreg, hs⟩ := hadv.hold hh
    · exact h.of_hold hl ha ha' hp hh' hp' hh
    · exact Clear.of_register hp hs hreg
  · cases hh

omit [Clock τ] in
theorem Clear.not_mem_of_answer (h : Clear n s) (hl : Ledger s os) {t : Ticket τ} {v : VerdictResponse}
    (hp : s.callers[n]? = some p) (hh : p.hold? = some (j, st, k))
    (ht : s.correlator.ticket? k = some t) (ho : t.outcome = .done v) (k' : Nat) :
    (j.request.guid, k') ∉ s.correlator.pending := by
  intro hm
  obtain rfl := (h.holds hp hh).1 k' hm
  obtain ⟨-, ho'⟩ := hl.sound.mem ht ⟨_, hm⟩
  cases ho.symm.trans ho'

theorem Clear.free_step (h : Clear n s) (hl : Ledger s os) (ha : Alone n s)
    {x : Upload.Target} {b : Upload.Content} {l : Option Value}
    (hp' : (s.step e).callers[n]? = some (.registerFinal j x b l)) (k : Nat) :
    (j.request.guid, k) ∉ (s.step e).correlator.pending := by
  intro hk
  have hask : (Phase.registerFinal j x b l).IsAsk := trivial
  obtain ⟨hp, ht⟩ | ⟨p, sig, rfl, -, -, hp, hadv⟩ | ⟨a, -, -, hc⟩ := ask_step hask hp'
  · exact h.free hp k (ha.mem_pending hp rfl (fun he ↦ absurd trivial (ht _ he)) hk)
  · generalize (s.moved n p sig).2 = s' at hadv
    generalize hp'' : Phase.registerFinal j x b l = p' at hadv
    cases hadv with
    | settle ht ha' =>
      -- The response that it goes on with has taken its only entry off the map.
      obtain ⟨v, rfl, rfl, -⟩ := received_eq_registerFinal hp''.symm
      exact h.not_mem_of_answer hl hp rfl ht (outcome_of_answer (.inl ha')) k
        (ha.mem_pending hp rfl (fun _ ↦ rfl) hk)
    | expire ht =>
      obtain ⟨v, ha', rfl, -⟩ := received_eq_registerFinal hp''.symm
      exact h.not_mem_of_answer hl hp rfl ht (outcome_of_answer (.inr ha')) k
        (ha.mem_pending hp rfl (fun _ ↦ rfl) hk)
    | failUpload | refuseUpload => exact absurd hp''.symm uploadFailed_ne_registerFinal
    | _ => cases hp''
  · cases hc

theorem Clear.step (h : Clear n s) (hl : Ledger s os) (ha : Alone n s) (ha' : Alone n (s.step e)) :
    Clear n (s.step e) :=
  ⟨h.holds_step hl ha ha', h.free_step hl ha⟩

theorem clear_run {settings : Settings τ} {files : FileSystem} {es : List (Event τ)}
    (h : Undisturbed n (start settings files) es) : Clear n ((start settings files).run es) := by
  induction es using List.reverseRecOn with
  | nil => exact ⟨fun hp ↦ by simp [start] at hp, fun hp ↦ by simp [start] at hp⟩
  | append_singleton es e ih =>
    obtain ⟨hes, ha, ha'⟩ := h.of_concat
    rw [run_concat]
    exact (ih hes).step (ledger_run settings files es) ha ha'

variable {vs : Stage → List VerdictResponse}

omit [Clock τ] in
/-- The ticket of a caller whom nobody disturbs gives it the first response that it accepts. -/
theorem Clear.answer (h : Clear n s) (hh : Heard n s vs) {u : Ticket τ} {a : Except Error VerdictResponse}
    (hp : s.callers[n]? = some p) (ho : p.hold? = some (j, st, k))
    (hu : s.correlator.ticket? k = some u) (ha : Correlator.answer? u = some a) :
    ∃ v, a = .ok v ∧ (vs st).find? st.accepts = some v := by
  obtain hout | ⟨v, hout⟩ := (h.holds hp ho).2 u hu
  · simp [Correlator.answer?, hout] at ha
  · simp only [Correlator.answer?, hout, Option.some_inj] at ha
    exact ⟨v, ha.symm, ((hh.answered hp ho hu).2 v hout).1⟩

omit [Clock τ] in
theorem Clear.lateAnswer (h : Clear n s) (hl : Ledger s os) (hh : Heard n s vs) {u : Ticket τ}
    (hp : s.callers[n]? = some p) (ho : p.hold? = some (j, st, k))
    (hu : s.correlator.ticket? k = some u) :
    (∃ v, Correlator.lateAnswer u = .ok v ∧ (vs st).find? st.accepts = some v) ∨
      Correlator.lateAnswer u = .error (.timedOut (.noResponse j.request.guid)) ∧
        (vs st).find? st.accepts = none := by
  obtain ⟨-, ⟨u', hu', hg, -⟩, -⟩ := hl.held hp ho
  obtain rfl : u = u' := Option.some_inj.1 (hu.symm.trans hu')
  obtain ⟨hpend, hdone⟩ := hh.answered hp ho hu
  obtain hout | ⟨v, hout⟩ := (h.holds hp ho).2 u hu
  · exact .inr ⟨by simp only [Correlator.lateAnswer, hout, hg], hpend hout⟩
  · exact .inl ⟨v, by simp only [Correlator.lateAnswer, hout], (hdone v hout).1⟩

end VerdictClient.Session
