import VerdictClient.Proofs.Session.Tickets

namespace VerdictClient.Session

variable {τ : Type} [Clock τ]

/-- Caller `m`, giving up, cancels ticket `k`. -/
def Cancels (m k : Nat) (s : Session τ) (e : Event τ) : Prop :=
  e = .move m .go ∧ ∃ g r, s.callers[m]? = some (.abandon g r) ∧ (g, k) ∈ s.correlator.pending

variable {s : Session τ} {os : List Nat} {e : Event τ} {m n k : Nat}

theorem ticket_step_of_owner_ne (h : Ledger s os) {a : Correlator.Act τ} {sig : Signal} {p : Phase τ}
    (hp : s.callers[m]? = some p) (ha : p.IsAsk) (hact : Acts s (.move m sig) a)
    (hk : os[k]? = some n) (hmn : n ≠ m) (hc : ¬Cancels m k s (.move m sig)) :
    (s.correlator.after a).ticket? k = s.correlator.ticket? k ∧
      ((s.correlator.after a).IsWaiting k ↔ s.correlator.IsWaiting k) := by
  have hlt : k < s.correlator.tickets.length := h.length ▸ (List.getElem?_eq_some_iff.1 hk).1
  have hother {p : Phase τ} {j : Job τ} {st : Stage} {k' : Nat} (hp : s.callers[m]? = some p)
      (hh : p.hold? = some (j, st, k')) : k' ≠ k := by
    rintro rfl
    exact hmn (Option.some_inj.1 (hk.symm.trans (h.held hp hh).owner))
  have hd : (∀ d, a.deadline k d = d) ∧ a ≠ .forget k := by
    cases hact with
    | restart hp => exact ⟨fun d ↦ if_neg (hother hp rfl), by simp⟩
    | forget hp => exact ⟨fun _ ↦ rfl, fun he ↦ hother hp rfl (Correlator.Act.forget.inj he)⟩
    | enroll | discard | close => exact ⟨fun _ ↦ rfl, by simp⟩
  have ht := List.getElem?_eq_getElem hlt
  by_cases hw : s.correlator.IsWaiting k
  · obtain ⟨o, ho, -⟩ | ⟨hf, -⟩ | ⟨-, hw', ht'⟩ := h.sound.after_of_waiting ht hw a
    · have hm := (h.sound.mem ht hw).1
      cases hact with
      | discard hp =>
        simp only [Correlator.Act.outcome?] at ho
        split at ho
        · next hg => exact absurd ⟨rfl, _, _, hp, hg ▸ hm⟩ hc
        · cases ho
      | close hp' =>
        obtain rfl : p = _ := Option.some_inj.1 (hp.symm.trans hp')
        exact ha.elim
      | enroll | forget | restart => cases ho
    · exact absurd hf hd.2
    · rw [ht', hd.1]
      exact ⟨ht.symm, iff_of_true hw' hw⟩
  · obtain ⟨hw', ht'⟩ := h.sound.after_of_not_waiting ht hw a
    rw [ht', hd.1]
    exact ⟨ht.symm, iff_of_false hw' hw⟩

theorem Cancels.step (h : Ledger s os) (hc : Cancels m k s e) :
    (∃ t, s.correlator.ticket? k = some t ∧
      (s.step e).correlator.ticket? k = some { t with outcome := .cancelled }) ∧
      s.correlator.IsWaiting k ∧ ¬(s.step e).correlator.IsWaiting k := by
  obtain ⟨rfl, g, r, hp, hg⟩ := hc
  obtain ⟨t, ht, rfl, ho⟩ := h.sound.entry g k hg
  have hs : (s.step (.move m .go)).correlator = s.correlator.after (.discard t.guid) := by
    rw [step_move hp]
    rfl
  rw [hs]
  obtain ⟨o, ho', hw, ht'⟩ | ⟨hf, -⟩ | ⟨ho', -⟩ :=
    h.sound.after_of_waiting ht ⟨_, hg⟩ (.discard t.guid)
  · obtain rfl : .cancelled = o := by simpa [Correlator.Act.outcome?] using ho'
    exact ⟨⟨t, ht, ht'⟩, ⟨_, hg⟩, hw⟩
  · cases hf
  · simp [Correlator.Act.outcome?] at ho'

/-- A step of an asking caller changes a ticket of another one exactly if it cancels it. -/
theorem foreign_ticket_iff (h : Ledger s os) {sig : Signal} {p : Phase τ}
    (hp : s.callers[m]? = some p) (ha : p.IsAsk) (hk : os[k]? = some n) (hmn : n ≠ m) :
    ¬((s.step (.move m sig)).correlator.ticket? k = s.correlator.ticket? k ∧
        ((s.step (.move m sig)).correlator.IsWaiting k ↔ s.correlator.IsWaiting k)) ↔
      Cancels m k s (.move m sig) := by
  constructor
  · intro hne
    by_contra hc
    obtain ⟨he, -⟩ | ⟨a, hact, he⟩ := s.correlator_step (.move m sig)
    · exact hne (he ▸ ⟨rfl, Iff.rfl⟩)
    · exact hne (he ▸ ticket_step_of_owner_ne h hp ha hact hk hmn hc)
  · rintro hc ⟨-, hw⟩
    obtain ⟨-, hw₁, hw₂⟩ := hc.step h
    exact hw₂ (hw.2 hw₁)

def Sends (n : Nat) (s : Session τ) (e : Event τ) : Prop :=
  ∃ j k o f, e = .move n (.written o) ∧ s.callers[n]? = some (.send j k) ∧
    (Outbound.verdict j.request).encode = .ok f ∧ (s.write f o).1 = .ok ()

/-- All requests are failed: by a caller that closes the session, or at the end of reading. -/
def Shuts (s : Session τ) (e : Event τ) : Prop :=
  (∃ n b₁ b₂, e = .move n .go ∧ s.callers[n]? = some (.failAll b₁ b₂)) ∨
    ∃ cause, e = .reader ∧ s.reader = .failRequests cause

def PutClosed (n : Nat) (s : Session τ) (e : Event τ) : Prop :=
  ∃ j k x b o c, e = .move n (.answered o) ∧ s.callers[n]? = some (.uploading j k x b) ∧
    Upload.finish x b o = .error (.closed c)

theorem Acts.shuts {cause : ClosedCause} (h : Acts s e (.failAll cause)) : Shuts s e := by
  cases h with
  | close hp => exact .inl ⟨_, _, _, rfl, hp⟩
  | lose hr => exact .inr ⟨_, rfl, hr⟩

variable {settings : Settings τ} {files : FileSystem} {es : List (Event τ)}

theorem shut_of_closed (h : ((start settings files).run es).correlator.closed.isSome) :
    Occurs Shuts (start settings files) es := by
  induction es using List.reverseRecOn with
  | nil => cases h
  | append_singleton es e ih =>
    rw [run_concat] at h
    obtain ⟨he, -⟩ | ⟨a, hact, he⟩ := ((start settings files).run es).correlator_step e
    · exact (ih (he ▸ h)).concat e
    · rw [he, Correlator.closed_after] at h
      cases a with
      | failAll cause => exact occurs_concat.2 (.inr hact.shuts)
      | enroll | resolve | discard | restart | forget =>
        simp only [Correlator.Act.closes?, Option.or_none] at h
        exact (ih h).concat e

theorem settled_by {t : Ticket τ}
    (ht : ((start settings files).run es).correlator.ticket? k = some t) :
    (∀ r, t.outcome = .failed r → Occurs Shuts (start settings files) es) ∧
      (t.outcome = .cancelled → ∃ m, Occurs (Cancels m k) (start settings files) es) := by
  induction es using List.reverseRecOn generalizing t with
  | nil => cases ht
  | append_singleton es e ih =>
    have h := (ledger_run settings files es).sound
    have hkeep {u : Ticket τ} (hu : ((start settings files).run es).correlator.ticket? k = some u)
        (ho : t.outcome = u.outcome) :
        (∀ r, t.outcome = .failed r → Occurs Shuts (start settings files) (es ++ [e])) ∧
          (t.outcome = .cancelled → ∃ m, Occurs (Cancels m k) (start settings files) (es ++ [e])) := by
      obtain ⟨hfail, hcancel⟩ := ih hu
      refine ⟨fun r hr ↦ (hfail r (ho ▸ hr)).concat e, fun hc ↦ ?_⟩
      obtain ⟨m, hm⟩ := hcancel (ho ▸ hc)
      exact ⟨m, hm.concat e⟩
    rw [run_concat] at ht
    obtain ⟨he, -⟩ | ⟨a, hact, he⟩ := ((start settings files).run es).correlator_step e
    · exact hkeep (he ▸ ht) rfl
    rw [he] at ht
    obtain ⟨u, hu⟩ | ho := Correlator.ticket?_of_after ht
    · by_cases hw : ((start settings files).run es).correlator.IsWaiting k
      · obtain ⟨o, ho, -, ht'⟩ | ⟨-, -, ht'⟩ | ⟨-, -, ht'⟩ := h.after_of_waiting hu hw a
        · obtain rfl := Option.some_inj.1 (ht'.symm.trans ht)
          have hm := (h.mem hu hw).1
          constructor
          · rintro r rfl
            obtain ⟨cause, rfl⟩ := Correlator.Act.eq_failAll ho
            exact occurs_concat.2 (.inr hact.shuts)
          · rintro rfl
            obtain rfl := Correlator.Act.eq_discard ho
            cases hact with
            | discard hp => exact ⟨_, occurs_concat.2 (.inr ⟨rfl, _, _, hp, hm⟩)⟩
        all_goals exact hkeep hu (congrArg Ticket.outcome (Option.some_inj.1 (ht'.symm.trans ht))).symm
      · obtain ⟨-, ht'⟩ := h.after_of_not_waiting hu hw a
        exact hkeep hu (congrArg Ticket.outcome (Option.some_inj.1 (ht'.symm.trans ht))).symm
    · simp [ho]

theorem ended_of_cancels (h : Occurs (Cancels m k) (start settings files) es) :
    ∃ r, ((start settings files).run es).callers[m]? = some (.ended r) := by
  induction es using List.reverseRecOn with
  | nil => exact absurd h not_occurs_nil
  | append_singleton es e ih =>
    rw [run_concat]
    rcases occurs_concat.1 h with h | ⟨rfl, g, r, hp, -⟩
    · obtain ⟨r, hr⟩ := ih h
      exact ⟨r, ended_stays hr e⟩
    · refine ⟨.error r, ?_⟩
      rw [callers_step_move, if_pos rfl, hp]
      rfl

/-- What can tell caller `n` that the connection is closed after its frame was written. -/
def ToldClosed (settings : Settings τ) (files : FileSystem) (n : Nat) (es : List (Event τ)) : Prop :=
  Occurs Shuts (start settings files) es ∨
    (∃ m k, m ≠ n ∧ (owners (start settings files) es)[k]? = some n ∧
      Occurs (Cancels m k) (start settings files) es) ∨
    Occurs (PutClosed n) (start settings files) es

theorem ToldClosed.concat (h : ToldClosed settings files n es) (e : Event τ) :
    ToldClosed settings files n (es ++ [e]) := by
  obtain h | ⟨m, k, hmn, hk, h⟩ | h := h
  · exact .inl (h.concat e)
  · refine .inr (.inl ⟨m, k, hmn, ?_, h.concat e⟩)
    rw [owners, observed_concat]
    exact getElem?_owners hk
  · exact .inr (.inr (h.concat e))

/-- Where a caller can stand whose frame was written; a closed connection ends it for a cause only. -/
def Phase.AfterSend (cause : Prop) : Phase τ → Prop
  | .await _ _ _ _ | .expire _ _ _ | .registerFinal _ _ _ _ | .upload _ _ _ _ _ | .uploading _ _ _ _
  | .restart _ _ => True
  | .abandon _ e => ∃ c, e = .upload c
  | .ended r => ∀ c, r = .error (.closed c) → cause
  | _ => False

omit [Clock τ] in
theorem Phase.AfterSend.mono {P Q : Prop} (h : P → Q) {p : Phase τ} (hp : p.AfterSend P) :
    p.AfterSend Q := by
  cases p with
  | ended r => exact fun c hc ↦ h (hp c hc)
  | _ => exact hp

omit [Clock τ] in
theorem afterSend_received {P : Prop} (j : Job τ) (st : Stage) {a : Except Error VerdictResponse}
    (ha : ∀ c, a = .error (.closed c) → P) : (received j st a).AfterSend P := by
  cases a with
  | error e => exact fun c hc ↦ ha c (congrArg Except.error (Except.error.inj hc))
  | ok v =>
    simp only [received]
    split
    · split
      · split
        · exact fun c hc ↦ by cases hc
        · trivial
      · exact fun c hc ↦ by cases hc
    · exact fun c hc ↦ by cases hc

omit [Clock τ] in
theorem afterSend_uploadFailed {P : Prop} (j : Job τ) {e : Error} (he : ∀ c, e = .closed c → P) :
    (uploadFailed j e).AfterSend P := by
  cases e with
  | upload c => exact ⟨c, rfl⟩
  | closed c => exact fun _ _ ↦ he c rfl
  | _ => exact fun c hc ↦ by cases hc

theorem closed_of_register_eq {c : Correlator τ} {now : τ} {g : Text} {timeout : Timeout τ} {fo : Bool}
    {cause : ClosedCause} (h : c.register now g timeout fo = .error (.closed cause)) :
    c.closed.isSome := by
  unfold Correlator.register at h
  cases hc : c.closed with
  | some _ => rfl
  | none =>
    cases hg : c.contains g <;> cases timeout <;> simp [hc, hg, Correlator.deadline] at h

theorem upload_start_ne_closed {fs : FileSystem} {x : Upload.Target} {o : Upload.Options}
    {b : Upload.Content} {c : ClosedCause} : Upload.start fs x o b ≠ .error (.closed c) := by
  cases b with
  | path p =>
    simp only [Upload.start]
    split
    · simp
    · split <;> simp
  | bytes | stream => simp [Upload.start]

theorem toldClosed_of_ticket {p : Phase τ} {j : Job τ} {st : Stage} {t : Ticket τ}
    (hp : ((start settings files).run es).callers[n]? = some p) (hh : p.hold? = some (j, st, k))
    (ht : ((start settings files).run es).correlator.ticket? k = some t)
    (ho : (∃ r, t.outcome = .failed r) ∨ t.outcome = .cancelled) :
    ToldClosed settings files n es := by
  obtain ⟨hfail, hcancel⟩ := settled_by ht
  obtain ⟨r, hr⟩ | hc := ho
  · exact .inl (hfail r hr)
  · obtain ⟨m, hm⟩ := hcancel hc
    refine .inr (.inl ⟨m, k, ?_, ((ledger_run settings files es).held hp hh).owner, hm⟩)
    rintro rfl
    obtain ⟨r, hr⟩ := ended_of_cancels hm
    obtain rfl : p = .ended r := Option.some_inj.1 (hp.symm.trans hr)
    cases hh

omit [Clock τ] in
theorem Phase.AfterSend.isAsk_or_ended {P : Prop} {p : Phase τ} (h : p.AfterSend P) :
    p.IsAsk ∨ ∃ r, p = .ended r := by
  cases p with
  | ended r => exact .inr ⟨r, rfl⟩
  | await | expire | registerFinal | upload | uploading | restart | abandon => exact .inl trivial
  | _ => exact h.elim

theorem afterSend_of_advance {p p' : Phase τ} {sig : Signal} {s' : Session τ}
    (hp : ((start settings files).run es).callers[n]? = some p)
    (ha : p.AfterSend (ToldClosed settings files n es))
    (hadv : Advance n ((start settings files).run es) p sig p' s') :
    p'.AfterSend (ToldClosed settings files n (es ++ [.move n sig])) := by
  have htold {j : Job τ} {st : Stage} {k : Nat} {t : Ticket τ} (hh : p.hold? = some (j, st, k))
      (ht : ((start settings files).run es).correlator.ticket? k = some t)
      (ho : (∃ r, t.outcome = .failed r) ∨ t.outcome = .cancelled) :=
    (toldClosed_of_ticket hp hh ht ho).concat (.move n sig)
  cases hadv with
  | settle ht hans =>
    refine afterSend_received _ _ fun c hc ↦ htold rfl ht ?_
    subst hc
    unfold Correlator.answer? at hans
    split at hans
    · cases hans
    · simp at hans
    · next hf => exact .inl ⟨_, hf⟩
    · next hf => exact .inr hf
  | balk =>
    intro c hc
    cases hc
  | expire ht =>
    refine afterSend_received _ _ fun c hc ↦ htold rfl ht ?_
    unfold Correlator.lateAnswer at hc
    split at hc
    · cases hc
    · next hf => exact .inl ⟨_, hf⟩
    · cases hc
    · cases hc
  | denyFinal hr =>
    intro c hc
    rw [Except.error.inj hc] at hr
    exact .inl ((shut_of_closed (closed_of_register_eq hr)).concat _)
  | failUpload hu =>
    refine afterSend_uploadFailed _ fun c hc ↦ ?_
    exact absurd (hc ▸ hu) upload_start_ne_closed
  | refuseUpload hu =>
    refine afterSend_uploadFailed _ fun c hc ↦ .inr (.inr (occurs_concat.2 (.inr ?_)))
    exact ⟨_, _, _, _, _, c, rfl, hp, hc ▸ hu⟩
  | denyRestart hd =>
    rintro c hc
    rw [Except.error.inj hc] at hd
    unfold Correlator.deadline at hd
    split at hd <;> cases hd
  | abandon =>
    obtain ⟨c, rfl⟩ := ha
    exact fun c hc ↦ by cases hc
  | linger | strike | lose | registerFinal | upload | finishUpload | restart => trivial
  | _ => exact ha.elim

theorem afterSend_run (h : Occurs (Sends n) (start settings files) es) :
    ∃ p, ((start settings files).run es).callers[n]? = some p ∧
      p.AfterSend (ToldClosed settings files n es) := by
  induction es using List.reverseRecOn with
  | nil => exact absurd h not_occurs_nil
  | append_singleton es e ih =>
    rw [run_concat]
    rcases occurs_concat.1 h with h | ⟨j, k, o, f, rfl, hp, hf, hw⟩
    · obtain ⟨p, hp, ha⟩ := ih h
      obtain ⟨hp', -⟩ | ⟨sig, p', s', rfl, hadv, -, hp'⟩ := call_goes hp ha.isAsk_or_ended e
      · exact ⟨p, hp', ha.mono fun h ↦ h.concat e⟩
      · exact ⟨p', hp', afterSend_of_advance hp ha hadv⟩
    · obtain ⟨s', hs⟩ : ∃ s', ((start settings files).run es).write f o = (.ok (), s') :=
        ⟨_, Prod.ext hw rfl⟩
      refine ⟨_, by rw [callers_step_move, if_pos rfl, hp, Option.map_some], ?_⟩
      simp only [moved, sendStep, hf, hs]
      trivial

/-- Asking callers are isolated from each other but for one step: giving up cancels the ticket that
another caller registered under the same guid meanwhile. So a caller whose frame was written is told
of a closed connection only if all requests were failed, or such a step cancelled a ticket of its
own, or the web client itself said so. -/
theorem isolated_but_for_giving_up (settings : Settings τ) (files : FileSystem) (es : List (Event τ)) :
    (∀ m n k p sig, ((start settings files).run es).callers[m]? = some p → p.IsAsk →
      (owners (start settings files) es)[k]? = some n → n ≠ m →
      (¬(((start settings files).run (es ++ [.move m sig])).correlator.ticket? k =
            ((start settings files).run es).correlator.ticket? k ∧
          (((start settings files).run (es ++ [.move m sig])).correlator.IsWaiting k ↔
            ((start settings files).run es).correlator.IsWaiting k)) ↔
        Cancels m k ((start settings files).run es) (.move m sig))) ∧
    (∀ n c, Occurs (Sends n) (start settings files) es →
      ((start settings files).run es).callers[n]? = some (.ended (.error (.closed c))) →
      Occurs Shuts (start settings files) es ∨
        (∃ m k, m ≠ n ∧ (owners (start settings files) es)[k]? = some n ∧
          Occurs (Cancels m k) (start settings files) es) ∨
        Occurs (PutClosed n) (start settings files) es) := by
  refine ⟨fun m n k p sig hp ha hk hmn ↦ ?_, fun n c hs hn ↦ ?_⟩
  · rw [run_concat]
    exact foreign_ticket_iff (ledger_run settings files es) hp ha hk hmn
  · obtain ⟨p, hp, ha⟩ := afterSend_run hs
    obtain rfl : p = _ := Option.some_inj.1 (hp.symm.trans hn)
    exact ha c rfl

def Sample.robbery : List (Event Int) :=
  opening ++ asking 1 (.stream [] none) "g" ++
    [.move 1 (.written none), .frame (demand "g"), .move 1 .go, .move 1 .go, .move 1 .go,
      .frame (answer "g" "Clean")] ++
    asking 2 (.url (.text "u")) "g" ++
    [.move 2 (.written none), .move 1 (.answered (.ok (.ofUtf8 500 [])))]

set_option maxRecDepth 100000 in
theorem Sample.robbery_asks : ∃ p : Phase Int, p.IsAsk ∧
    ((start Sample.settings .empty).run Sample.robbery).callers[1]? = some p :=
  ⟨.abandon "g" _, trivial, by rfl⟩

theorem Sample.robbery_outcomes :
    (((start Sample.settings .empty).run Sample.robbery).correlator.ticket? 2).map (·.outcome) =
      some .pending ∧
    (((start Sample.settings .empty).run (Sample.robbery ++ [.move 1 .go])).correlator.ticket? 2).map
      (·.outcome) = some .cancelled :=
  ⟨by decide +kernel, by decide +kernel⟩

theorem Sample.robbery_owner : (owners (start Sample.settings .empty) Sample.robbery)[2]? = some 2 := by
  decide +kernel

theorem Sample.robbery_differs :
    ((start Sample.settings .empty).run (Sample.robbery ++ [.move 1 .go])).correlator.ticket? 2 ≠
      ((start Sample.settings .empty).run Sample.robbery).correlator.ticket? 2 := by
  obtain ⟨hold, hnew⟩ := Sample.robbery_outcomes
  intro he
  rw [he, hold] at hnew
  cases hnew

theorem isolated_but_for_giving_up_robbery :
    Cancels 1 2 ((start Sample.settings .empty).run Sample.robbery) (.move 1 .go) := by
  obtain ⟨p, ha, hp⟩ := Sample.robbery_asks
  exact ((isolated_but_for_giving_up Sample.settings .empty Sample.robbery).1 1 2 2 p .go hp ha
    Sample.robbery_owner (by decide)).1 fun h ↦ Sample.robbery_differs h.1

/-- A caller that gives up may cancel the ticket of another one. -/
theorem not_isolated : ¬∀ (es : List (Event Int)) (m n k : Nat) (p : Phase Int) (sig : Signal),
    ((start Sample.settings .empty).run es).callers[m]? = some p → p.IsAsk →
    (owners (start Sample.settings .empty) es)[k]? = some n → n ≠ m →
    ((start Sample.settings .empty).run (es ++ [.move m sig])).correlator.ticket? k =
      ((start Sample.settings .empty).run es).correlator.ticket? k := by
  intro h
  obtain ⟨p, ha, hp⟩ := Sample.robbery_asks
  exact Sample.robbery_differs (h Sample.robbery 1 2 2 p .go hp ha Sample.robbery_owner (by decide))

end VerdictClient.Session
