import VerdictClient.Proofs.Session.Tickets

namespace VerdictClient.Session

variable {τ : Type} [Clock τ]

/-- An error that is not foreseen ends a caller that holds ticket `k`. -/
inductive Forsakes (k : Nat) (s : Session τ) : Event τ → Prop
  | encode {n j o e} (hp : s.callers[n]? = some (.send j k))
      (h : (Outbound.verdict j.request).encode = .error e) : Forsakes k s (.move n (.written o))
  | write {n j o f e} (hp : s.callers[n]? = some (.send j k))
      (h : (Outbound.verdict j.request).encode = .ok f) (hw : (s.write f o).1 = .error e)
      (he : ∀ c, e ≠ .closed c) : Forsakes k s (.move n (.written o))
  | wait {n j st x t} (hp : s.callers[n]? = some (.await j st k x)) (ht : s.correlator.ticket? k = some t)
      (ho : t.outcome = .pending) (h : Correlator.outlasts s.now t = true) : Forsakes k s (.move n .go)
  | open {n j x b l e} (hp : s.callers[n]? = some (.upload j k x b l))
      (h : Upload.start s.files x ⟨s.settings.uploadTimeout, l⟩ b = .error e)
      (he : ∀ c, e ≠ .upload c) : Forsakes k s (.move n .go)
  | put {n j x b o e} (hp : s.callers[n]? = some (.uploading j k x b))
      (h : Upload.finish x b o = .error e) (he : ∀ c, e ≠ .upload c) :
      Forsakes k s (.move n (.answered o))

omit [Clock τ] in
theorem uploadFailed_of_ne (j : Job τ) {e : Error} (he : ∀ c, e ≠ .upload c) :
    uploadFailed j e = .ended (.error e) := by
  cases e with
  | upload c => exact absurd rfl (he c)
  | _ => rfl

variable {s : Session τ} {os : List Nat} {e : Event τ} {n k : Nat} {g : Text}

theorem Forsakes.ended (h : Forsakes k s e) :
    ∃ (n : Nat) (p : Phase τ) (j : Job τ) (st : Stage) (r : _), s.callers[n]? = some p ∧
    p.hold? = some (j, st, k) ∧ (∀ j st, p ≠ .expire j st k) ∧
    (s.step e).callers[n]? = some (.ended r) := by
  cases h with
  | @encode n j o e hp h =>
    refine ⟨n, _, j, .first, .error (.unencodable e), hp, rfl, by simp, ?_⟩
    simp [callers_step_move, hp, moved, sendStep, h]
  | @write n j o f e hp h hw he =>
    refine ⟨n, _, j, .first, .error e, hp, rfl, by simp, ?_⟩
    obtain ⟨s', hs⟩ : ∃ s', s.write f o = (.error e, s') := ⟨_, Prod.ext hw rfl⟩
    rw [callers_step_move, if_pos rfl, hp, Option.map_some]
    simp only [moved, sendStep, h, hs]
  | @wait n j st x t hp ht ho h =>
    refine ⟨n, _, j, st, .error (.timeoutRange false), hp, rfl, by simp, ?_⟩
    simp [callers_step_move, hp, moved, awaitSettled, ht, Correlator.answer?, ho, h]
  | @«open» n j x b l e hp h he =>
    refine ⟨n, _, j, .final, .error e, hp, rfl, by simp, ?_⟩
    simp [callers_step_move, hp, moved, uploadStep, h, uploadFailed_of_ne j he]
  | @put n j x b o e hp h he =>
    refine ⟨n, _, j, .final, .error e, hp, rfl, by simp, ?_⟩
    simp [callers_step_move, hp, moved, uploadingStep, h, uploadFailed_of_ne j he]

/-- A caller will still take care of an entry of the map. -/
def Keeps (s : Session τ) (n : Nat) (g : Text) (k : Nat) : Prop :=
  ∃ p, s.callers[n]? = some p ∧
    ((∃ j st, p.hold? = some (j, st, k) ∧ j.request.guid = g) ∨ ∃ r, p = .abandon g r)

omit [Clock τ] in
theorem Keeps.of_hold {p : Phase τ} {j : Job τ} {st : Stage} (hp : s.callers[n]? = some p)
    (hh : p.hold? = some (j, st, k)) : Keeps s n j.request.guid k :=
  ⟨p, hp, .inl ⟨j, st, hh, rfl⟩⟩

omit [Clock τ] in
theorem Keeps.of_abandon {r : Error} (hp : s.callers[n]? = some (.abandon g r)) : Keeps s n g k :=
  ⟨_, hp, .inr ⟨r, rfl⟩⟩

theorem keeps_uploadFailed {j : Job τ} {r : Error}
    (hp : (s.step e).callers[n]? = some (uploadFailed j r))
    (hr : (∀ c, r ≠ .upload c) → Forsakes k s e) :
    Forsakes k s e ∨ Keeps (s.step e) n j.request.guid k := by
  by_cases h : ∃ c, r = .upload c
  · obtain ⟨c, rfl⟩ := h
    exact .inr (.of_abandon hp)
  · exact .inl (hr (not_exists.1 h))

theorem keeps_of_advance (h : Ledger s os) {p p' : Phase τ} {sig : Signal} {s' : Session τ}
    {j : Job τ} {st : Stage} (hp : s.callers[n]? = some p) (hh : p.hold? = some (j, st, k))
    (hadv : Advance n s p sig p' s') (hn : (j.request.guid, k) ∈ s'.correlator.pending)
    (hp' : (s.step (.move n sig)).callers[n]? = some p') :
    Forsakes k s (.move n sig) ∨ Keeps (s.step (.move n sig)) n j.request.guid k := by
  obtain ⟨-, ⟨t, ht, -⟩, span, hspan⟩ := h.held hp hh
  cases hadv with
  | unencodable he =>
    cases hh
    exact .inl (.encode hp he)
  | breakOff he hw hc =>
    cases hh
    exact .inl (.write hp he (congrArg Prod.fst hw) hc)
  | breakClosed =>
    cases hh
    exact .inr (.of_abandon hp')
  | failUpload he =>
    cases hh
    exact keeps_uploadFailed hp' (.open hp he)
  | refuseUpload he =>
    cases hh
    exact keeps_uploadFailed hp' (.put hp he)
  | balk ht' ho hlong =>
    cases hh
    exact .inl (.wait hp ht' ho hlong)
  | settle ht' ha =>
    -- A ticket with an answer is off the map.
    cases hh
    have ho := (h.sound.mem ht' ⟨_, hn⟩).2
    simp [Correlator.answer?, ho] at ha
  | expire | lose =>
    cases hh
    exact absurd rfl (Correlator.mem_forget.1 hn).2
  | denyRestart hd =>
    cases hh
    cases hd.symm.trans (Correlator.deadline_eq_ok_iff.2 ⟨span, hspan, rfl⟩)
  | written | linger | strike | upload | finishUpload | restart =>
    cases hh
    exact .inr (.of_hold hp' rfl)
  | _ => cases hh

theorem Keeps.step (h : Ledger s os) (hk : Keeps s n g k)
    (hn : (g, k) ∈ (s.step e).correlator.pending) : Forsakes k s e ∨ Keeps (s.step e) n g k := by
  obtain ⟨p, hp, ⟨j, st, hh, rfl⟩ | ⟨r, rfl⟩⟩ := hk
  · obtain ⟨hp', -⟩ | ⟨sig, p', s', rfl, -, hadv, hs, hp'⟩ := ask_goes hp (Phase.isAsk_of_hold? hh) e
    · exact .inr (.of_hold hp' hh)
    · exact keeps_of_advance h hp hh hadv (by rwa [hs] at hn) hp'
  · obtain ⟨hp', -⟩ | ⟨sig, p', s', rfl, -, hadv, hs, hp'⟩ := ask_goes hp trivial e
    · exact .inr (.of_abandon hp')
    · cases hadv
      rw [hs] at hn
      have hg : (g, k) ∈ (s.correlator.after (.discard g)).pending := hn
      by_cases hm : ∃ m, (g, m) ∈ s.correlator.pending
      · obtain ⟨m, hm⟩ := hm
        rw [Correlator.after_discard_of_mem h.sound hm] at hg
        exact absurd rfl (Correlator.mem_drop.1 hg).2
      · rw [Correlator.after_discard_of_not_mem (not_exists.1 hm)] at hg
        exact absurd ⟨k, hg⟩ hm

theorem keeps_of_enroll {d : τ} {fo : Bool} (h : Ledger s os) (ha : Acts s e (.enroll g d fo)) :
    ∃ n, (os ++ (s.hands? e).toList)[os.length]? = some n ∧ Keeps (s.step e) n g os.length := by
  cases ha with
  | @enroll n p j st _ hp hj hc hg hd =>
    have hr : s.correlator.register s.now j.request.guid j.timeout st.isFinal = .ok (os.length, _) :=
      Correlator.register_eq_ok_iff.2 ⟨hc, hg, h.length, d, hd, rfl⟩
    obtain ⟨p', hm, hh⟩ := moved_registers (n := n) hj hr
    have hp' : (s.step (.move n .go)).callers[n]? = some p' := by
      rw [callers_step_move, if_pos rfl, hp, Option.map_some, hm]
    exact ⟨n, (h.holds_of_register hp (congrArg Prod.snd hm) hr).owner, .of_hold hp' hh⟩

variable {settings : Settings τ} {files : FileSystem} {es : List (Event τ)}

/-- Every entry of the map is kept by its owner, or forsaken. -/
theorem kept_run (hn : (g, k) ∈ ((start settings files).run es).correlator.pending) :
    Occurs (Forsakes k) (start settings files) es ∨
      ∃ n, (owners (start settings files) es)[k]? = some n ∧
        Keeps ((start settings files).run es) n g k := by
  induction es using List.reverseRecOn with
  | nil => cases hn
  | append_singleton es e ih =>
    have h := ledger_run settings files es
    rw [run_concat] at hn ⊢
    rw [owners, observed_concat]
    have hstep (hm : (g, k) ∈ ((start settings files).run es).correlator.pending) :
        Occurs (Forsakes k) (start settings files) (es ++ [e]) ∨ ∃ n,
          (owners (start settings files) es ++
              (hands? ((start settings files).run es) e).toList)[k]? = some n ∧
            Keeps (((start settings files).run es).step e) n g k := by
      obtain hf | ⟨n, ho, hk⟩ := ih hm
      · exact .inl (hf.concat e)
      · obtain hf | hk := hk.step h hn
        · exact .inl (occurs_concat.2 (.inr hf))
        · exact .inr ⟨n, getElem?_owners ho, hk⟩
    obtain ⟨he, -⟩ | ⟨a, ha, he⟩ := ((start settings files).run es).correlator_step e
    · exact hstep (he ▸ hn)
    · obtain hm | ⟨rfl, d, fo, rfl⟩ := Correlator.mem_pending_after (he ▸ hn)
      · exact hstep hm
      · rw [← h.length]
        exact .inr (keeps_of_enroll h ha)

/-- A forsaken ticket belongs to a caller that has ended, and is on the map until it is settled. -/
theorem forsaken_run (hf : Occurs (Forsakes k) (start settings files) es) :
    ∃ n r t, (owners (start settings files) es)[k]? = some n ∧
      ((start settings files).run es).callers[n]? = some (.ended r) ∧
      ((start settings files).run es).correlator.ticket? k = some t ∧
      (t.outcome = .pending → ((start settings files).run es).correlator.IsWaiting k) := by
  induction es using List.reverseRecOn with
  | nil => exact absurd hf not_occurs_nil
  | append_singleton es e ih =>
    have h := ledger_run settings files es
    rw [run_concat, owners, observed_concat]
    rcases occurs_concat.1 hf with hf | hf
    · obtain ⟨n, r, t, ho, hp, ht, hw⟩ := ih hf
      have hnf : ¬Acts _ e (.forget k) :=
        h.not_forget ho fun j st hx ↦ by simp [hp] at hx
      obtain ⟨t', ht', -, -, hw'⟩ := ticket_step h.sound ht hw hnf
      exact ⟨n, r, t', getElem?_owners ho, ended_stays hp e, ht', hw'⟩
    · obtain ⟨n, p, j, st, r, hp, hh, hx, hr⟩ := hf.ended
      obtain ⟨ho, ⟨t, ht, -, -, hw⟩, -⟩ := h.holds_step hp hh fun j st he ↦ absurd he (hx j st)
      exact ⟨n, r, t, ho, hr, ht, hw⟩

theorem isWaiting_iff_of_ended {r : Except Error (Option Classification)}
    (hn : ((start settings files).run es).callers[n]? = some (.ended r))
    (hk : (owners (start settings files) es)[k]? = some n) :
    ((start settings files).run es).correlator.IsWaiting k ↔
      Occurs (Forsakes k) (start settings files) es ∧
        ∃ t, ((start settings files).run es).correlator.ticket? k = some t ∧ t.outcome = .pending := by
  constructor
  · rintro ⟨g, hg⟩
    obtain ⟨t, ht, -, ho⟩ := (ledger_run settings files es).sound.entry g k hg
    obtain hf | ⟨m, hm, p, hp, hkeep⟩ := kept_run hg
    · exact ⟨hf, t, ht, ho⟩
    · obtain rfl : m = n := Option.some_inj.1 (hm.symm.trans hk)
      obtain rfl : p = .ended r := Option.some_inj.1 (hp.symm.trans hn)
      obtain ⟨j, st, hh, -⟩ | ⟨e, he⟩ := hkeep
      · cases hh
      · cases he
  · rintro ⟨hf, t, ht, ho⟩
    obtain ⟨-, -, t', -, -, ht', hw⟩ := forsaken_run hf
    exact hw (Option.some_inj.1 (ht'.symm.trans ht) ▸ ho)

theorem contains_iff_of_idle
    (hn : ∀ p ∈ ((start settings files).run es).callers, ¬p.IsAsk) :
    ((start settings files).run es).correlator.contains g = true ↔
      ∃ k t, Occurs (Forsakes k) (start settings files) es ∧
        ((start settings files).run es).correlator.ticket? k = some t ∧ t.guid = g ∧
          t.outcome = .pending := by
  have h := (ledger_run settings files es).sound
  constructor
  · intro hg
    obtain ⟨k, hk⟩ := Option.isSome_iff_exists.1 hg
    have hm := h.find?_eq_some_iff.1 hk
    obtain ⟨t, ht, hguid, ho⟩ := h.entry g k hm
    obtain hf | ⟨m, -, p, hp, hkeep⟩ := kept_run hm
    · exact ⟨k, t, hf, ht, hguid, ho⟩
    · have ha := hn p (List.mem_of_getElem? hp)
      obtain ⟨j, st, hh, -⟩ | ⟨e, rfl⟩ := hkeep
      · exact absurd (Phase.isAsk_of_hold? hh) ha
      · exact absurd trivial ha
  · rintro ⟨k, t, hf, ht, rfl, ho⟩
    obtain ⟨-, -, t', -, -, ht', hw⟩ := forsaken_run hf
    have hm := (h.mem ht (hw (Option.some_inj.1 (ht'.symm.trans ht) ▸ ho))).1
    exact Option.isSome_iff_exists.2 ⟨k, h.find?_eq_some_iff.2 hm⟩

/-- What callers leave behind: nothing but tickets that they forsook and that are unsettled. -/
theorem left_behind (settings : Settings τ) (files : FileSystem) (es : List (Event τ)) :
    (∀ n r k, ((start settings files).run es).callers[n]? = some (.ended r) →
      (owners (start settings files) es)[k]? = some n →
      (((start settings files).run es).correlator.IsWaiting k ↔
        Occurs (Forsakes k) (start settings files) es ∧
          ∃ t, ((start settings files).run es).correlator.ticket? k = some t ∧
            t.outcome = .pending)) ∧
    ((∀ p ∈ ((start settings files).run es).callers, ¬p.IsAsk) →
      ∀ g, (((start settings files).run es).correlator.contains g = true ↔
        ∃ k t, Occurs (Forsakes k) (start settings files) es ∧
          ((start settings files).run es).correlator.ticket? k = some t ∧ t.guid = g ∧
            t.outcome = .pending)) :=
  ⟨fun _ _ _ ↦ isWaiting_iff_of_ended, fun hn _ ↦ contains_iff_of_idle hn⟩

/-- A caller whose connection fails in an unforeseen way as it writes. -/
def Sample.broken : List (Event Int) :=
  opening ++ asking 1 (.url (.text "u")) "g" ++ [.move 1 (.written (some (.runtime "down")))]

set_option maxRecDepth 100000 in
theorem Sample.broken_ended :
    ((start Sample.settings .empty).run Sample.broken).callers[1]? =
        some (.ended (.error (.passed (.runtime "down")))) ∧
      (owners (start Sample.settings .empty) Sample.broken)[0]? = some 1 ∧
      ((start Sample.settings .empty).run Sample.broken).correlator.IsWaiting 0 := by
  refine ⟨by rfl, by decide +kernel, "g", ?_⟩
  have hp : ((start Sample.settings .empty).run Sample.broken).correlator.pending = [(("g" : Text), 0)] := by
    decide +kernel
  rw [hp]
  exact List.mem_singleton_self _

theorem left_behind_broken :
    Occurs (Forsakes 0) (start Sample.settings .empty) Sample.broken := by
  obtain ⟨hn, hk, hw⟩ := Sample.broken_ended
  exact (((left_behind Sample.settings .empty Sample.broken).1 1 _ 0 hn hk).1 hw).1

/-- A caller may have ended with its ticket still on the map. -/
theorem not_always_released : ¬∀ (es : List (Event Int)) (n k : Nat)
    (r : Except Error (Option Classification)),
    ((start Sample.settings .empty).run es).callers[n]? = some (.ended r) →
    (owners (start Sample.settings .empty) es)[k]? = some n →
    ¬((start Sample.settings .empty).run es).correlator.IsWaiting k := by
  intro h
  obtain ⟨hn, hk, hw⟩ := Sample.broken_ended
  exact h Sample.broken 1 0 _ hn hk hw

end VerdictClient.Session
