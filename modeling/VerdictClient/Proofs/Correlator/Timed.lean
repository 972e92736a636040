import Mathlib.Data.List.Induction
import VerdictClient.Correlator.Timed
import VerdictClient.Proofs.Correlator.Leads

namespace VerdictClient.Correlator

variable {τ : Type}

def Timed.refuses [Clock τ] (n : Nat) (s : Timed τ) : Bool :=
  (s.correlator.ticket? n).any (outlasts s.now)

/-- What an event decides about ticket `n` while it is pending: the outcome that it gets, or, when the
time of a wait for it runs out, that it gets none. -/
def Event.decides? [Clock τ] (s : Timed τ) (n : Nat) (t : Ticket τ) :
    Event τ → Option (Future VerdictResponse)
  | .resolve g r => if g = t.guid ∧ t.accepts r then some (.done r) else none
  | .discard g => if g = t.guid then some .cancelled else none
  | .failAll cause => some (.failed (.closed cause))
  | .wait m => if m = n ∧ s.refuses n = false then some .pending else none
  | .register _ _ _ | .restart _ _ | .advance _ => none

theorem Event.decides?_congr [Clock τ] {t u : Ticket τ} (hg : t.guid = u.guid)
    (hf : t.finalOnly = u.finalOnly) (s : Timed τ) (n : Nat) (e : Event τ) :
    e.decides? s n t = e.decides? s n u := by
  obtain ⟨g, x, fo, o⟩ := t
  obtain ⟨g', x', fo', o'⟩ := u
  obtain rfl : g = g' := hg
  obtain rfl : fo = fo' := hf
  cases e <;> rfl

def Event.closes? : Event τ → Option ClosedCause
  | .failAll cause => some cause
  | _ => none

def Event.settles (c : Correlator τ) : Event τ → List Nat
  | .resolve g r => (c.addressee? g r).toList
  | .discard g => (c.find? g).toList
  | .failAll _ => c.pending.map Prod.snd
  | _ => []

namespace Timed

variable [Clock τ] {s : Timed τ} {e : Event τ} {es : List (Event τ)} {n : Nat} {t : Ticket τ}
variable {g : Text} {fo : Bool}

theorem run_append (s : Timed τ) (es fs : List (Event τ)) :
    s.run (es ++ fs) = (s.run es).run fs :=
  List.foldl_append

theorem run_concat (s : Timed τ) (es : List (Event τ)) (e : Event τ) :
    s.run (es ++ [e]) = ((s.run es).perform e).2 := by
  rw [run_append]
  rfl

omit [Clock τ] in
theorem correlator_timeOut (n : Nat) (s : Timed τ) :
    (s.timeOut n).2 = { s with correlator := s.correlator.forget n } := by
  simp only [timeOut]
  split <;> rfl

theorem wait_of_settled {a : Except Error VerdictResponse} (ht : s.correlator.ticket? n = some t)
    (ha : answer? t = some a) (meanwhile : Timed τ → Timed τ) :
    s.wait n meanwhile = (a.map .response, s) := by
  simp only [wait, ht, ha]

theorem wait_of_refused (ht : s.correlator.ticket? n = some t) (ho : t.outcome = .pending)
    (hlong : outlasts s.now t = true) (meanwhile : Timed τ → Timed τ) :
    s.wait n meanwhile = (.error (.timeoutRange false), s) := by
  simp only [wait, ht, answer?, ho, hlong, if_true]

theorem wait_of_pending (ht : s.correlator.ticket? n = some t) (ho : t.outcome = .pending)
    (hlong : outlasts s.now t = false) (meanwhile : Timed τ → Timed τ) :
    s.wait n meanwhile = (meanwhile (s.strike t.deadline)).timeOut n := by
  simp only [wait, ht, answer?, ho, hlong, Bool.false_eq_true, if_false]

/-- A wait forgets its ticket if it is not refused: one that is settled is off the map already. -/
theorem correlator_wait (hs : s.correlator.Sound) (n : Nat) :
    (s.perform (.wait n)).2.correlator =
      if s.refuses n then s.correlator else s.correlator.forget n := by
  rw [perform]
  cases ht : s.correlator.ticket? n with
  | none =>
    have hoff : ¬s.correlator.IsWaiting n := by
      intro hw
      cases ht.symm.trans (List.getElem?_eq_getElem (hs.lt hw))
    simp only [wait, refuses, ht, Option.any_none, Bool.false_eq_true, if_false, forget_of_not_waiting hoff]
  | some t =>
    cases ha : answer? t with
    | some a =>
      have hoff : ¬s.correlator.IsWaiting n := by
        intro hw
        simp [answer?, (hs.mem ht hw).2] at ha
      rw [wait_of_settled ht ha, forget_of_not_waiting hoff, ite_self]
    | none =>
      have ho := answer?_eq_none_iff.1 ha
      cases hlong : outlasts s.now t with
      | true => rw [wait_of_refused ht ho hlong, refuses, ht, Option.any_some, hlong, if_pos rfl]
      | false =>
        rw [wait_of_pending ht ho hlong, correlator_timeOut, refuses, ht, Option.any_some, hlong]
        rfl

theorem leads_perform (hs : s.correlator.Sound) (e : Event τ) :
    Leads s.correlator (s.perform e).2.correlator fun n t ↦ e.decides? s n t := by
  cases e with
  | register g timeout fo =>
    simp only [perform]
    split
    · next n c h =>
      obtain ⟨hc, hg, -, d, -, rfl⟩ := register_eq_ok_iff.1 h
      have ha : (Act.enroll g d fo).IsAllowed s.correlator := ⟨hc, hg⟩
      exact .act ha
    · exact .refl _
  | resolve g r => exact .act (a := .resolve g r) trivial
  | discard g => exact .act (a := .discard g) trivial
  | failAll cause => exact .act (a := .failAll cause) trivial
  | restart n timeout =>
    simp only [perform]
    split
    · next d _ => exact .act (a := .restart n d) trivial
    · exact .refl _
  | advance span => exact .refl _
  | wait m =>
    rw [correlator_wait hs]
    split
    · next hm =>
      refine (Leads.refl _).congr fun n t ↦ (if_neg ?_).symm
      rintro ⟨rfl, hn⟩
      cases hm.symm.trans hn
    · next hm =>
      refine (Leads.act (a := .forget m) trivial).congr fun n t ↦ ?_
      by_cases hmn : m = n
      · subst hmn
        simp [Act.decides?, Event.decides?, hm]
      · simp [Act.decides?, Event.decides?, hmn]

def decision? (n : Nat) (t : Ticket τ) (s : Timed τ) (es : List (Event τ)) :
    Option (Future VerdictResponse) :=
  firstDecision (fun s e ↦ (s.perform e).2) (fun s e ↦ e.decides? s n t) s es

theorem decision?_congr {u : Ticket τ} (hg : t.guid = u.guid) (hf : t.finalOnly = u.finalOnly) (n : Nat)
    (s : Timed τ) (es : List (Event τ)) : s.decision? n t es = s.decision? n u es := by
  simp only [decision?, Event.decides?_congr hg hf]

theorem leads_run (hs : s.correlator.Sound) (es : List (Event τ)) :
    Leads s.correlator (s.run es).correlator fun n t ↦ s.decision? n t es :=
  Leads.foldl correlator (fun _ e hs ↦ leads_perform hs e) hs es

theorem sound_run (es : List (Event τ)) : (start.run es : Timed τ).correlator.Sound :=
  (leads_run sound_empty es).sound sound_empty

/-- A run hands out ticket `n`. It has come to `s` then, and `later` is the rest of it. -/
def Issues (n : Nat) (g : Text) (fo : Bool) (es : List (Event τ)) (s : Timed τ)
    (later : List (Event τ)) : Prop :=
  ∃ es₁ timeout, es = es₁ ++ .register g timeout fo :: later ∧
    (start.run es₁).perform (.register g timeout fo) = (.ok (.ticket n), s)

theorem perform_register {timeout : Timeout τ}
    (h : (s.perform (.register g timeout fo)).1 = .ok (.ticket n)) :
    ∃ d, n = s.correlator.tickets.length ∧
      (s.perform (.register g timeout fo)).2.correlator = s.correlator.enroll g d fo := by
  simp only [perform] at h ⊢
  split at h
  · next m c hr =>
    obtain ⟨-, -, rfl, d, -, rfl⟩ := register_eq_ok_iff.1 hr
    obtain rfl : _ = n := by simpa using h
    exact ⟨d, rfl, rfl⟩
  · cases h

theorem registered_of_new (hs : s.correlator.Sound) (hn : s.correlator.tickets.length ≤ n)
    (ht : (s.perform e).2.correlator.ticket? n = some t) :
    ∃ timeout, e = .register t.guid timeout t.finalOnly ∧
      (s.perform e).1 = .ok (.ticket n) := by
  have hlt := (List.getElem?_eq_some_iff.1 ht).1
  have hsame (a : Act τ) (hc : (s.perform e).2.correlator = s.correlator.after a)
      (ha : a.enrolls = false) : False := by
    rw [hc, length_after, ha] at hlt
    simp only [Bool.toNat_false] at hlt
    omega
  cases e with
  | register g timeout fo =>
    cases hr : s.correlator.register s.now g timeout fo with
    | ok p =>
      obtain ⟨-, -, hp, d, -, hc⟩ := register_eq_ok_iff.1 hr
      simp only [perform, hr, hp, hc] at ht hlt ⊢
      obtain rfl : n = s.correlator.tickets.length := by
        simp only [enroll, List.length_append, List.length_singleton] at hlt
        omega
      obtain rfl : (⟨g, d, fo, .pending⟩ : Ticket τ) = t :=
        Option.some_inj.1 (List.getElem?_concat_length.symm.trans ht)
      exact ⟨timeout, rfl, rfl⟩
    | error x =>
      simp only [perform, hr] at hlt
      omega
  | resolve g r => exact (hsame (.resolve g r) rfl rfl).elim
  | discard g => exact (hsame (.discard g) rfl rfl).elim
  | failAll cause => exact (hsame (.failAll cause) rfl rfl).elim
  | restart m timeout =>
    simp only [perform] at hlt
    split at hlt
    · next d hd => exact (hsame (.restart m d) (by simp only [perform, hd]; rfl) rfl).elim
    · exact absurd hlt (Nat.not_lt.2 hn)
  | advance span => exact absurd hlt (by simpa [perform] using hn)
  | wait m =>
    rw [correlator_wait hs] at hlt
    split at hlt <;> exact absurd hlt (Nat.not_lt.2 hn)

theorem issued_run (ht : (start.run es).correlator.ticket? n = some t) :
    ∃ s later, Issues n t.guid t.finalOnly es s later := by
  induction es using List.reverseRecOn generalizing t with
  | nil => cases ht
  | append_singleton es e ih =>
    rw [run_concat] at ht
    have hs := sound_run es
    by_cases hn : n < (start.run es).correlator.tickets.length
    · obtain ⟨u, hu⟩ : ∃ u, (start.run es).correlator.ticket? n = some u :=
        ⟨_, List.getElem?_eq_getElem hn⟩
      obtain ⟨hguid, hfinal⟩ := (leads_perform hs e).same hs hu ht
      obtain ⟨s, later, es₁, timeout, rfl, hr⟩ := ih hu
      rw [hguid, hfinal]
      exact ⟨s, later ++ [e], es₁, timeout, by simp, hr⟩
    · obtain ⟨timeout, rfl, hr⟩ := registered_of_new hs (Nat.le_of_not_lt hn) ht
      exact ⟨_, [], es, timeout, rfl, Prod.ext hr rfl⟩

theorem decided_run {later : List (Event τ)} (h : Issues n g fo es s later) :
    ∃ t, (start.run es).correlator.ticket? n = some t ∧ t.guid = g ∧ t.finalOnly = fo ∧
      t.outcome = (s.decision? n t later).getD .pending ∧
      ((g, n) ∈ (start.run es).correlator.pending ↔ s.decision? n t later = none) := by
  obtain ⟨es₁, timeout, rfl, hr⟩ := h
  obtain ⟨d, rfl, hc⟩ := perform_register (congrArg Prod.fst hr)
  rw [hr] at hc
  have hrun : (start.run (es₁ ++ .register g timeout fo :: later) : Timed τ) = s.run later := by
    rw [run_append, run, List.foldl_cons, hr]
    rfl
  have hs : s.correlator.Sound := by
    have hstep := (leads_perform (sound_run es₁) (.register g timeout fo)).sound (sound_run es₁)
    rwa [hr] at hstep
  have ht : s.correlator.ticket? (start.run es₁).correlator.tickets.length = some ⟨g, d, fo, .pending⟩ := by
    rw [hc]
    exact List.getElem?_concat_length
  have hw : s.correlator.IsWaiting (start.run es₁).correlator.tickets.length := by
    rw [hc]
    exact ⟨g, List.mem_append_right _ (List.mem_singleton.2 rfl)⟩
  obtain ⟨⟨x, hx⟩, hiff⟩ := (leads_run hs later).of_waiting hs ht hw
  have hsame (o : Future VerdictResponse) :
      s.decision? (start.run es₁).correlator.tickets.length ⟨g, x, fo, o⟩ later =
        s.decision? (start.run es₁).correlator.tickets.length ⟨g, d, fo, .pending⟩ later :=
    decision?_congr rfl rfl _ _ _
  rw [← hrun] at hx hiff
  refine ⟨_, hx, rfl, rfl, ?_, ?_⟩
  · rw [hsame]
  · rw [(sound_run _).mem_pending_iff hx, hiff, hsame]

theorem outcome_stays (ht : (start.run es).correlator.ticket? n = some t)
    (hn : (t.guid, n) ∉ (start.run es).correlator.pending) (more : List (Event τ)) :
    ∃ u, (start.run (es ++ more)).correlator.ticket? n = some u ∧ u.outcome = t.outcome := by
  have hs := sound_run es
  have hoff : ¬(start.run es).correlator.IsWaiting n := fun hw ↦ hn ((hs.mem_pending_iff ht).2 hw)
  obtain ⟨-, x, hx⟩ := (leads_run hs more).of_not_waiting hs ht hoff
  rw [run_append]
  exact ⟨_, hx, rfl⟩

theorem closed_perform (hs : s.correlator.Sound) (e : Event τ) :
    (s.perform e).2.correlator.closed = s.correlator.closed.or e.closes? := by
  cases e with
  | register g timeout fo =>
    simp only [perform, Event.closes?, Option.or_none]
    split
    · next n c h =>
      obtain ⟨-, -, -, d, -, rfl⟩ := register_eq_ok_iff.1 h
      rfl
    · rfl
  | resolve g r => exact closed_after (.resolve g r)
  | discard g => exact closed_after (.discard g)
  | failAll cause => rfl
  | restart n timeout =>
    simp only [perform, Event.closes?, Option.or_none]
    split <;> rfl
  | advance span => exact Option.or_none.symm
  | wait n =>
    rw [correlator_wait hs]
    split <;> exact Option.or_none.symm

theorem closed_run (hs : s.correlator.Sound) (es : List (Event τ)) :
    (s.run es).correlator.closed = s.correlator.closed.or (es.findSome? Event.closes?) := by
  induction es generalizing s with
  | nil => exact Option.or_none.symm
  | cons e es ih =>
    have hnext := ih ((leads_perform hs e).sound hs)
    rw [closed_perform hs e, Option.or_assoc] at hnext
    refine hnext.trans ?_
    rw [List.findSome?_cons]
    cases e.closes? <;> rfl

theorem register_of_closed {es₁ es₂ : List (Event τ)} {cause : ClosedCause}
    (hes : es = es₁ ++ .failAll cause :: es₂) (hfirst : ∀ c, .failAll c ∉ es₁) :
    (start.run es).correlator.pending = [] ∧ ∀ g timeout fo,
      (start.run es).perform (.register g timeout fo) = (.error (.closed cause), start.run es) := by
  have hnone : es₁.findSome? Event.closes? = none := by
    refine List.findSome?_eq_none_iff.2 fun e he ↦ ?_
    cases e with
    | failAll c => exact absurd he (hfirst c)
    | _ => rfl
  have hcl : (start.run es).correlator.closed = some cause := by
    rw [closed_run sound_empty, hes, List.findSome?_append, hnone]
    rfl
  refine ⟨(sound_run es).closed (by simp [hcl]), fun g timeout fo ↦ ?_⟩
  simp only [perform, register, hcl]

omit [Clock τ] in
theorem resolve_iff (hs : s.correlator.Sound) (g : Text) (r : VerdictResponse) :
    (s.correlator.resolve g r).1 = true ↔ ∃ n t, s.correlator.ticket? n = some t ∧
      t.outcome = .pending ∧
      (s.correlator.resolve g r).2.ticket? n = some { t with outcome := .done r } := by
  cases hr : s.correlator.addressee? g r with
  | none =>
    simp only [resolve, hr, Bool.false_eq_true, false_iff]
    rintro ⟨n, t, ht, ho, ht'⟩
    have heq : t = { t with outcome := .done r } := Option.some_inj.1 (ht.symm.trans ht')
    rw [heq] at ho
    cases ho
  | some n =>
    have hm := hs.mem_of_addressee? hr
    obtain ⟨t, ht, -, ho⟩ := hs.entry g n hm
    simp only [resolve, hr, true_iff]
    exact ⟨n, t, ht, ho, ticket?_drop_settle_self ht ho _⟩

omit [Clock τ] in
theorem pending_of_settles (hs : s.correlator.Sound) (h : n ∈ e.settles s.correlator) :
    ∃ t, s.correlator.ticket? n = some t ∧ t.outcome = .pending := by
  have hmem (hg : ∃ g, (g, n) ∈ s.correlator.pending) :
      ∃ t, s.correlator.ticket? n = some t ∧ t.outcome = .pending := by
    obtain ⟨g, hg⟩ := hg
    obtain ⟨t, ht, -, ho⟩ := hs.entry g n hg
    exact ⟨t, ht, ho⟩
  cases e with
  | resolve g r => exact hmem ⟨g, hs.mem_of_addressee? (Option.mem_toList.1 h)⟩
  | discard g => exact hmem ⟨g, hs.find?_eq_some_iff.1 (Option.mem_toList.1 h)⟩
  | failAll cause =>
    obtain ⟨⟨g, m⟩, hm, rfl⟩ := List.mem_map.1 h
    exact hmem ⟨g, hm⟩
  | register | restart | advance | wait => cases h

theorem final_of_done {r : VerdictResponse} (ht : (start.run es).correlator.ticket? n = some t)
    (hf : t.finalOnly = true) (ho : t.outcome = .done r) : r.verdict ≠ .unknown := by
  obtain ⟨s, later, hi⟩ := issued_run ht
  obtain ⟨u, hu, -, -, hout, -⟩ := decided_run hi
  obtain rfl : t = u := Option.some_inj.1 (ht.symm.trans hu)
  rw [ho] at hout
  cases hd : s.decision? n t later with
  | none => simp [hd] at hout
  | some o =>
    obtain rfl : .done r = o := by simpa [hd] using hout
    obtain ⟨_, e, _, -, he, -⟩ := exists_of_firstDecision hd
    cases e with
    | resolve g v =>
      simp only [Event.decides?] at he
      split at he
      · next hacc =>
        obtain rfl : v = r := by simpa using he
        simpa [Ticket.accepts, hf] using hacc.2
      · cases he
    | discard g =>
      simp only [Event.decides?] at he
      split at he <;> cases he
    | wait m =>
      simp only [Event.decides?] at he
      split at he <;> cases he
    | failAll | register | restart | advance => cases he

/-- The first event decides. Whatever happens to a correlator, every request that it has handed out has
the outcome that the first event after its registration that applies to it gave it, and the map holds
exactly the requests that no event has decided, each under its own guid and unsettled. An outcome
stays. A response is taken exactly when it settles a request, and never if the request waits for a final
verdict and it is none. From the first failure of all requests on the map is empty, and every
registration is refused with the cause of that one. No event settles what is settled, and a wait that
nobody can be made to wait out changes nothing. -/
theorem first_event_decides (es : List (Event τ)) :
    (∀ n g fo s later, Issues n g fo es s later → ∃ t, (start.run es).correlator.ticket? n = some t ∧
      t.guid = g ∧ t.finalOnly = fo ∧ t.outcome = (s.decision? n t later).getD .pending ∧
      ((g, n) ∈ (start.run es).correlator.pending ↔ s.decision? n t later = none)) ∧
    (∀ n t, (start.run es).correlator.ticket? n = some t →
      ∃ s later, Issues n t.guid t.finalOnly es s later) ∧
    (∀ g n, (g, n) ∈ (start.run es).correlator.pending →
      ∃ t, (start.run es).correlator.ticket? n = some t ∧ t.guid = g ∧ t.outcome = .pending) ∧
    ((start.run es).correlator.pending.map Prod.fst).Nodup ∧
    (∀ n t, (start.run es).correlator.ticket? n = some t →
      (t.guid, n) ∉ (start.run es).correlator.pending → ∀ more,
        ∃ u, (start.run (es ++ more)).correlator.ticket? n = some u ∧ u.outcome = t.outcome) ∧
    (∀ g r, ∃ b, ((start.run es).perform (.resolve g r)).1 = .ok (.truth b) ∧
      (b = true ↔ ∃ n t, (start.run es).correlator.ticket? n = some t ∧ t.outcome = .pending ∧
        ((start.run es).perform (.resolve g r)).2.correlator.ticket? n =
          some { t with outcome := .done r })) ∧
    (∀ n t r, (start.run es).correlator.ticket? n = some t → t.finalOnly = true →
      t.outcome = .done r → r.verdict ≠ .unknown) ∧
    (∀ es₁ cause es₂, es = es₁ ++ .failAll cause :: es₂ → (∀ c, .failAll c ∉ es₁) →
      (start.run es).correlator.pending = [] ∧ ∀ g timeout fo,
        (start.run es).perform (.register g timeout fo) =
          (.error (.closed cause), start.run es)) ∧
    (∀ e n, n ∈ Event.settles (start.run es).correlator e →
      ∃ t, (start.run es).correlator.ticket? n = some t ∧ t.outcome = .pending) ∧
    ∀ n t, (start.run es).correlator.ticket? n = some t → t.outcome = .pending →
      (start.run es).refuses n = true →
      (start.run es).perform (.wait n) = (.error (.timeoutRange false), start.run es) := by
  have hs := sound_run es
  refine ⟨fun n g fo s later h ↦ decided_run h, fun n t ht ↦ issued_run ht, hs.entry, hs.keys,
    fun n t ht hn more ↦ outcome_stays ht hn more, fun g r ↦ ⟨_, rfl, resolve_iff hs g r⟩,
    fun n t r ht hf ho ↦ final_of_done ht hf ho, fun es₁ cause es₂ hes hfirst ↦ ?_,
    fun e n hn ↦ pending_of_settles hs hn, fun n t ht ho hlong ↦ ?_⟩
  · exact register_of_closed hes hfirst
  · rw [refuses, ht, Option.any_some] at hlong
    exact wait_of_refused ht ho hlong id

def Sample.clean : VerdictResponse := ⟨"g", .clean, [], none, none, none⟩

def Sample.reuse : List (Event Int) :=
  [.register "g" (.after 10) false, .resolve "g" clean, .register "g" (.after 5) true,
    .resolve "g" { clean with verdict := .unknown }, .wait 1, .failAll .unnamed]

theorem first_event_decides_reuse :
    (∃ t, (start.run Sample.reuse).correlator.ticket? 0 = some t ∧ t.outcome = .done Sample.clean) ∧
      ∃ t, (start.run Sample.reuse).correlator.ticket? 1 = some t ∧ t.outcome = .pending := by
  obtain ⟨hdecide, -⟩ := first_event_decides Sample.reuse
  constructor
  · obtain ⟨t, ht, hg, hf, ho, -⟩ := hdecide 0 "g" false _ _ ⟨[], .after 10, rfl, rfl⟩
    refine ⟨t, ht, ho.trans ?_⟩
    rw [decision?_congr (u := ⟨"g", 0, false, .pending⟩) hg hf]
    rfl
  · obtain ⟨t, ht, hg, hf, ho, -⟩ := hdecide 1 "g" true _ _
      ⟨[.register "g" (.after 10) false, .resolve "g" Sample.clean], .after 5, rfl, rfl⟩
    refine ⟨t, ht, ho.trans ?_⟩
    rw [decision?_congr (u := ⟨"g", 0, true, .pending⟩) hg hf]
    rfl

end Timed

end VerdictClient.Correlator
