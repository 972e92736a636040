import Mathlib.Algebra.Order.Group.Defs
import Mathlib.Algebra.Order.Group.Int
import Mathlib.Order.Lattice
import VerdictClient.Proofs.Correlator.Timed

namespace VerdictClient

/-- The numbers that the clock shows are exact. -/
structure Clock.IsExact (τ : Type) [Clock τ] [AddCommGroup τ] [LinearOrder τ] : Prop where
  zero : (Clock.zero : τ) = 0
  add : ∀ a b : τ, Clock.add a b = a + b
  sub : ∀ a b : τ, Clock.sub a b = a - b
  lt : ∀ a b : τ, Clock.lt a b = decide (a < b)

theorem Clock.isExact_int : Clock.IsExact Int := ⟨rfl, fun _ _ ↦ rfl, fun _ _ ↦ rfl, fun _ _ ↦ rfl⟩

section

variable {τ : Type} [Clock τ] [AddCommGroup τ] [LinearOrder τ] [IsOrderedAddMonoid τ]

theorem Clock.IsExact.wake (h : Clock.IsExact τ) (now deadline : τ) :
    Clock.wake now deadline = max now deadline := by
  rw [Clock.wake, Clock.left, h.add, h.sub, h.lt, h.zero]
  rcases lt_or_ge now deadline with hlt | hle
  · rw [max_eq_right hlt.le]
    simp [sub_pos.2 hlt]
  · rw [max_eq_left hle]
    simp [not_lt.2 hle]

end

namespace Correlator

variable {τ : Type} {c c' : Correlator τ} {g : Text} {n m : Nat} {t : Ticket τ}
variable {d : Nat → Ticket τ → Option (Future VerdictResponse)}

/-- The ticket on the map under a guid is the last one that was handed out for it. -/
def Newest (c : Correlator τ) : Prop :=
  ∀ g m, (g, m) ∈ c.pending → ∀ n t, c.ticket? n = some t → t.guid = g → n ≤ m

theorem Newest.after (h : c.Newest) (hs : c.Sound) {a : Act τ} (ha : a.IsAllowed c) :
    (c.after a).Newest := by
  intro g m hm n t ht hg
  have hlt := (List.getElem?_eq_some_iff.1 ht).1
  rcases mem_pending_after hm with hold | ⟨rfl, x, fo, rfl⟩
  · by_cases hn : n < c.tickets.length
    · obtain ⟨hguid, -⟩ := (Leads.act ha).same hs (List.getElem?_eq_getElem hn) ht
      exact h g m hold n _ (List.getElem?_eq_getElem hn) (hguid.symm.trans hg)
    · -- A new ticket is only handed out for a guid that is not on the map.
      cases a with
      | enroll g' x fo =>
        rw [length_after] at hlt
        obtain rfl : n = c.tickets.length := by
          simp only [Act.enrolls, Bool.toNat_true] at hlt
          omega
        obtain rfl := Option.some_inj.1 (List.getElem?_concat_length.symm.trans ht)
        obtain rfl : g' = g := hg
        exact absurd hold (contains_eq_false_iff.1 ha.2 m)
      | _ =>
        rw [length_after] at hlt
        exact absurd hlt hn
  · rw [length_after] at hlt
    simp only [Act.enrolls, Bool.toNat_true] at hlt
    omega

theorem Newest.afterAll {as : List (Act τ)} (h : c.Newest) (hs : c.Sound) (ha : c.Allows as) :
    (c.afterAll as).Newest := by
  induction as generalizing c with
  | nil => exact h
  | cons a as ih => exact ih (h.after hs ha.1) (hs.after ha.1) ha.2

theorem Leads.newest (hl : Leads c c' d) (h : c.Newest) (hs : c.Sound) : c'.Newest := by
  obtain ⟨as, ha, rfl, -⟩ := hl
  exact h.afterAll hs ha

theorem newest_empty : (empty : Correlator τ).Newest := by
  intro g m hm
  cases hm

/-- What callers do to a correlator. The time of a wait may run out in one step, and the wait may notice
it in a later one. -/
inductive Step (τ : Type) where
  | event (e : Event τ)
  | strike (n : Nat)
  | notice (n : Nat)

def Step.decides? [Clock τ] (s : Timed τ) (n : Nat) (t : Ticket τ) :
    Step τ → Option (Future VerdictResponse)
  | .event e => e.decides? s n t
  | .strike _ => none
  | .notice m => if m = n then some .pending else none

def Step.IsForward [Clock τ] : Step τ → Prop
  | .event (.advance span) => Clock.lt span Clock.zero = false
  | _ => True

namespace Timed

variable [Clock τ] {s : Timed τ} {x : Step τ} {xs : List (Step τ)} {e : Event τ}

def move (s : Timed τ) : Step τ → Timed τ
  | .event e => (s.perform e).2
  | .strike n =>
    match s.correlator.ticket? n with
    | some t => s.strike t.deadline
    | none => s
  | .notice n => (s.timeOut n).2

def moves (s : Timed τ) (xs : List (Step τ)) : Timed τ := xs.foldl move s

theorem moves_append (s : Timed τ) (xs ys : List (Step τ)) :
    s.moves (xs ++ ys) = (s.moves xs).moves ys :=
  List.foldl_append

/-- One of these steps is an event that settles ticket `n`. -/
def Settles (s : Timed τ) (xs : List (Step τ)) (n : Nat) (e : Event τ) : Prop :=
  ∃ before after, xs = before ++ .event e :: after ∧
    n ∈ Event.settles (s.moves before).correlator e

theorem leads_move (hs : s.correlator.Sound) (x : Step τ) :
    Leads s.correlator (s.move x).correlator fun n t ↦ x.decides? s n t := by
  cases x with
  | event e => exact leads_perform hs e
  | strike n =>
    simp only [move]
    split <;> exact .refl _
  | notice n =>
    simp only [move, correlator_timeOut]
    exact .act (a := .forget n) trivial

theorem leads_moves (hs : s.correlator.Sound) (xs : List (Step τ)) :
    Leads s.correlator (s.moves xs).correlator fun n t ↦
      firstDecision move (fun s x ↦ x.decides? s n t) s xs :=
  Leads.foldl correlator (fun _ x hs ↦ leads_move hs x) hs xs

theorem sound_moves (xs : List (Step τ)) : ((start : Timed τ).moves xs).correlator.Sound :=
  (leads_moves sound_empty xs).sound sound_empty

theorem newest_moves (xs : List (Step τ)) : ((start : Timed τ).moves xs).correlator.Newest :=
  (leads_moves sound_empty xs).newest newest_empty sound_empty

omit [Clock τ] in
theorem isWaiting_of_settles (hs : c.Sound) (h : n ∈ Event.settles c e) : c.IsWaiting n := by
  cases e with
  | resolve g r => exact ⟨g, hs.mem_of_addressee? (Option.mem_toList.1 h)⟩
  | discard g => exact ⟨g, hs.find?_eq_some_iff.1 (Option.mem_toList.1 h)⟩
  | failAll cause =>
    obtain ⟨⟨g, m⟩, hm, rfl⟩ := List.mem_map.1 h
    exact ⟨g, hm⟩
  | register | restart | advance | wait => cases h

theorem mem_settles_iff (hs : s.correlator.Sound) (ht : s.correlator.ticket? n = some t)
    (hn : s.correlator.IsWaiting n) (e : Event τ) :
    n ∈ Event.settles s.correlator e ↔ ∃ o, e.decides? s n t = some o ∧ o ≠ .pending := by
  have hmem := (hs.mem ht hn).1
  cases e with
  | resolve g r =>
    rw [Event.settles, Option.mem_toList, hs.addressee? ht hn r]
    simp [Event.decides?]
  | discard g =>
    rw [Event.settles, Option.mem_toList, hs.find?_eq_some_iff]
    have hg : (g, n) ∈ s.correlator.pending ↔ g = t.guid :=
      ⟨fun hg ↦ (hs.guid_eq ht hg).symm, fun hg ↦ hg ▸ hmem⟩
    simp [Event.decides?, hg]
  | failAll cause =>
    have hn : n ∈ s.correlator.pending.map Prod.snd := List.mem_map.2 ⟨_, hmem, rfl⟩
    simp [Event.decides?, Event.settles, hn]
  | register | restart | advance => simp [Event.settles, Event.decides?]
  | wait m => simp [Event.settles, Event.decides?]

theorem outcome_of_settles (hs : s.correlator.Sound) (h : s.Settles xs n e) :
    ∃ u s', (s.moves xs).correlator.ticket? n = some u ∧ e.decides? s' n u = some u.outcome := by
  obtain ⟨before, after, rfl, hn⟩ := h
  have hs' := (leads_moves hs before).sound hs
  have hw := isWaiting_of_settles hs' hn
  obtain ⟨t, ht⟩ : ∃ t, (s.moves before).correlator.ticket? n = some t :=
    ⟨_, List.getElem?_eq_getElem (hs'.lt hw)⟩
  obtain ⟨o, ho, -⟩ := (mem_settles_iff hs' ht hw e).1 hn
  obtain ⟨⟨x, hx⟩, -⟩ := (leads_moves hs' (.event e :: after)).of_waiting hs' ht hw
  have hd : (Step.event e).decides? (s.moves before) n t = some o := ho
  rw [firstDecision, hd, Option.some_or, Option.getD_some] at hx
  refine ⟨_, s.moves before, (moves_append s before _).symm ▸ hx, ?_⟩
  exact (Event.decides?_congr rfl rfl _ n e).trans ho

theorem settles_of_outcome {u : Ticket τ} (hs : s.correlator.Sound)
    (ht : s.correlator.ticket? n = some t) (ho : t.outcome = .pending)
    (hu : (s.moves xs).correlator.ticket? n = some u) (hne : u.outcome ≠ .pending) :
    ∃ e s', s.Settles xs n e ∧ e.decides? s' n u = some u.outcome := by
  by_cases hw : s.correlator.IsWaiting n
  · obtain ⟨⟨x, hx⟩, -⟩ := (leads_moves hs xs).of_waiting hs ht hw
    obtain rfl := Option.some_inj.1 (hx.symm.trans hu)
    cases hd : firstDecision move (fun s x ↦ x.decides? s n t) s xs with
    | none => simp [hd] at hne
    | some o =>
      simp only [hd, Option.getD_some] at hne ⊢
      obtain ⟨before, y, after, rfl, hy, hbefore⟩ := exists_of_firstDecision hd
      cases y with
      | strike m => cases hy
      | notice m =>
        simp only [Step.decides?, Option.ite_none_right_eq_some, Option.some.injEq] at hy
        exact absurd hy.2.symm hne
      | event e =>
        refine ⟨e, _, ⟨before, after, rfl, ?_⟩, (Event.decides?_congr rfl rfl _ n e).trans hy⟩
        obtain ⟨⟨z, hz⟩, hiff⟩ := (leads_moves hs before).of_waiting hs ht hw
        have hon := hiff.2 hbefore
        apply (mem_settles_iff ((leads_moves hs before).sound hs) hz hon e).2
        exact ⟨o, (Event.decides?_congr rfl rfl _ n e).trans hy, hne⟩
  · obtain ⟨-, x, hx⟩ := (leads_moves hs xs).of_not_waiting hs ht hw
    obtain rfl := Option.some_inj.1 (hx.symm.trans hu)
    exact absurd ho hne

section

variable [AddCommGroup τ] [LinearOrder τ] [IsOrderedAddMonoid τ]

theorem now_wait (hx : Clock.IsExact τ) (n : Nat) (s : Timed τ) : s.now ≤ (s.wait n id).2.now := by
  simp only [wait]
  split
  · exact le_rfl
  · split
    · exact le_rfl
    · split
      · exact le_rfl
      · rw [correlator_timeOut]
        exact (le_max_left _ _).trans_eq (hx.wake _ _).symm

theorem now_move (hx : Clock.IsExact τ) (h : x.IsForward) (s : Timed τ) : s.now ≤ (s.move x).now := by
  cases x with
  | strike n =>
    simp only [move]
    split
    · exact (le_max_left _ _).trans_eq (hx.wake _ _).symm
    · exact le_rfl
  | notice n => rw [move, correlator_timeOut]
  | event e =>
    cases e with
    | register | restart =>
      simp only [move, perform]
      split <;> exact le_rfl
    | resolve | discard | failAll => exact le_rfl
    | advance span =>
      have hspan : ¬span < 0 := by simpa [Step.IsForward, hx.lt, hx.zero] using h
      have hadd : (s.move (.event (.advance span))).now = s.now + span := hx.add _ _
      rw [hadd]
      exact le_add_of_nonneg_right (not_lt.1 hspan)
    | wait n => exact now_wait hx n s

theorem now_moves (hx : Clock.IsExact τ) (h : ∀ x ∈ xs, x.IsForward) (s : Timed τ) :
    s.now ≤ (s.moves xs).now := by
  induction xs generalizing s with
  | nil => exact le_rfl
  | cons x xs ih =>
    have hhead := now_move hx (h x List.mem_cons_self) s
    exact hhead.trans (ih (fun y hy ↦ h y (List.mem_cons_of_mem x hy)) (s.move x))

end

omit [Clock τ] in
theorem timeOut_of_ticket (ht : s.correlator.ticket? n = some t) :
    s.timeOut n = ((lateAnswer t).map .response, { s with correlator := s.correlator.forget n }) := by
  simp only [timeOut, ticket?_forget, ht]

theorem exists_pending_of_truth {r : VerdictResponse} (hs : s.correlator.Sound)
    (h : (s.perform (.resolve g r)).1 = .ok (.truth true)) : ∃ m, (g, m) ∈ s.correlator.pending := by
  cases ha : s.correlator.addressee? g r with
  | none => simp [perform, resolve, ha] at h
  | some m => exact ⟨m, hs.mem_of_addressee? ha⟩

theorem exists_newer {r : VerdictResponse} (hs : s.correlator.Sound) (hn : s.correlator.Newest)
    (ht : s.correlator.ticket? n = some t) (hoff : ¬s.correlator.IsWaiting n) (xs : List (Step τ))
    (h : ((s.moves xs).perform (.resolve t.guid r)).1 = .ok (.truth true)) :
    ∃ m, n < m ∧ (t.guid, m) ∈ (s.moves xs).correlator.pending := by
  have hlead := leads_moves hs xs
  obtain ⟨m, hm⟩ := exists_pending_of_truth (hlead.sound hs) h
  obtain ⟨u, hu, hguid, -⟩ := hlead.ticket hs ht
  have hle := hlead.newest hn hs _ m hm n u hu hguid
  have hne : n ≠ m := by
    rintro rfl
    exact (hlead.of_not_waiting hs ht hoff).1 ⟨_, hm⟩
  exact ⟨m, Nat.lt_of_le_of_ne hle hne, hm⟩

theorem lateAnswer_of_resolve {u : Ticket τ} {r : VerdictResponse} (hs : s.correlator.Sound)
    (h : s.Settles xs n (.resolve g r)) (hu : (s.moves xs).correlator.ticket? n = some u) :
    lateAnswer u = .ok r := by
  obtain ⟨v, _, hv, hd⟩ := outcome_of_settles hs h
  obtain rfl := Option.some_inj.1 (hv.symm.trans hu)
  simp only [Event.decides?, Option.ite_none_right_eq_some, Option.some.injEq] at hd
  rw [lateAnswer, ← hd.2]

theorem lateAnswer_of_failAll {u : Ticket τ} {cause : ClosedCause} (hs : s.correlator.Sound)
    (h : s.Settles xs n (.failAll cause)) (hu : (s.moves xs).correlator.ticket? n = some u) :
    lateAnswer u = .error (.closed cause) := by
  obtain ⟨v, _, hv, hd⟩ := outcome_of_settles hs h
  obtain rfl := Option.some_inj.1 (hv.symm.trans hu)
  rw [lateAnswer, ← Option.some.inj hd]

theorem lateAnswer_of_neither {u : Ticket τ} (hs : s.correlator.Sound)
    (ht : s.correlator.ticket? n = some t) (ho : t.outcome = .pending)
    (hu : (s.moves xs).correlator.ticket? n = some u)
    (hr : ∀ g r, ¬s.Settles xs n (.resolve g r)) (hf : ∀ cause, ¬s.Settles xs n (.failAll cause)) :
    lateAnswer u = .error (.timedOut (.noResponse t.guid)) := by
  rw [← ((leads_moves hs xs).same hs ht hu).1]
  by_cases hne : u.outcome = .pending
  · rw [lateAnswer, hne]
  · obtain ⟨e, _, he, hd⟩ := settles_of_outcome hs ht ho hu hne
    cases e with
    | resolve g r => exact absurd he (hr g r)
    | failAll cause => exact absurd he (hf cause)
    | discard g =>
      simp only [Event.decides?, Option.ite_none_right_eq_some, Option.some.injEq] at hd
      rw [lateAnswer, ← hd.2]
    | wait m =>
      simp only [Event.decides?, Option.ite_none_right_eq_some, Option.some.injEq] at hd
      exact absurd hd.2.symm hne
    | register | restart | advance => cases hd

/-- The race at the deadline. A wait that nobody can be made to wait out is refused, and nothing changes.
Any other wait for a pending ticket whose time has run out returns the response if one of the steps taken
before it notices has settled the ticket with it, ends with the error of the failure of all requests if
one has failed it, and is out of time otherwise. Then the ticket is off the map, and nothing else has
changed: every other entry is there, one of the same guid too, and a later response under that guid only
reaches a ticket handed out after this one. If the clock shows exact numbers and does not run backwards,
the deadline has passed then. Whoever waits for a settled ticket gets its outcome, and nothing changes. -/
theorem race_is_decided (past : List (Step τ)) (n : Nat) (t : Ticket τ)
    (ht : (start.moves past : Timed τ).correlator.ticket? n = some t) :
    let s : Timed τ := start.moves past
    (t.outcome = .pending → outlasts s.now t = true → ∀ meanwhile,
      s.wait n meanwhile = (.error (.timeoutRange false), s)) ∧
    (t.outcome = .pending → outlasts s.now t = false → ∀ xs : List (Step τ),
      let struck := s.strike t.deadline
      let w := s.wait n (·.moves xs)
      (∀ g r, struck.Settles xs n (.resolve g r) → w.1 = .ok (.response r)) ∧
      (∀ cause, struck.Settles xs n (.failAll cause) → w.1 = .error (.closed cause)) ∧
      ((∀ g r, ¬struck.Settles xs n (.resolve g r)) →
        (∀ cause, ¬struck.Settles xs n (.failAll cause)) →
        w.1 = .error (.timedOut (.noResponse t.guid))) ∧
      (∀ g, (g, n) ∉ w.2.correlator.pending) ∧
      (∀ g m, m ≠ n → ((g, m) ∈ w.2.correlator.pending ↔
        (g, m) ∈ (struck.moves xs).correlator.pending)) ∧
      w.2.correlator.tickets = (struck.moves xs).correlator.tickets ∧
      (∀ ys r, ((w.2.moves ys).perform (.resolve t.guid r)).1 = .ok (.truth true) →
        ∃ m, n < m ∧ (t.guid, m) ∈ (w.2.moves ys).correlator.pending) ∧
      ∀ [AddCommGroup τ] [LinearOrder τ] [IsOrderedAddMonoid τ], Clock.IsExact τ →
        (∀ x ∈ xs, x.IsForward) → t.deadline ≤ w.2.now) ∧
    ∀ meanwhile,
      (∀ r, t.outcome = .done r → s.wait n meanwhile = (.ok (.response r), s)) ∧
      (∀ e, t.outcome = .failed e → s.wait n meanwhile = (.error e, s)) ∧
      (t.outcome = .cancelled → s.wait n meanwhile = (.error (.closed (.discarded t.guid)), s)) := by
  intro s
  have hs : s.correlator.Sound := sound_moves past
  refine ⟨fun ho hlong meanwhile ↦ wait_of_refused ht ho hlong meanwhile, ?_, ?_⟩
  · intro ho hlong xs struck w
    have hs' : struck.correlator.Sound := hs
    have hlead := leads_moves hs' xs
    obtain ⟨u, hu, hguid, -⟩ := hlead.ticket hs' ht
    have hw : w = (struck.moves xs).timeOut n := wait_of_pending ht ho hlong _
    rw [timeOut_of_ticket hu] at hw
    have hcor : w.2.correlator = (struck.moves xs).correlator.forget n := by rw [hw]
    have hoff : ¬w.2.correlator.IsWaiting n := by
      rintro ⟨g, hg⟩
      rw [hcor] at hg
      exact (mem_forget.1 hg).2 rfl
    refine ⟨?_, ?_, ?_, ?_, ?_, ?_, ?_, ?_⟩
    · intro g r hr
      rw [hw, lateAnswer_of_resolve hs' hr hu]
      rfl
    · intro cause hf
      rw [hw, lateAnswer_of_failAll hs' hf hu]
      rfl
    · intro hr hf
      rw [hw, lateAnswer_of_neither hs' ht ho hu hr hf]
      rfl
    · intro g hg
      exact hoff ⟨g, hg⟩
    · intro g m hm
      rw [hcor]
      exact mem_forget.trans (and_iff_left hm)
    · rw [hcor]
      rfl
    · -- Noticing that the time is up is a step like the others.
      have hmove : w.2 = (struck.moves xs).move (.notice n) := by rw [hw, move, correlator_timeOut]
      have hend := hlead.trans (leads_move (hlead.sound hs') (.notice n))
      rw [← hmove] at hend
      have hnewest := hend.newest (newest_moves past) hs'
      intro ys r hr
      rw [← hguid] at hr ⊢
      have hticket : w.2.correlator.ticket? n = some u := by rw [hcor]; exact hu
      exact exists_newer (hend.sound hs') hnewest hticket hoff ys hr
    · intro _ _ _ hx hforward
      have hnow : w.2.now = (struck.moves xs).now := by rw [hw]
      have hwake : t.deadline ≤ struck.now := (le_max_right _ _).trans_eq (hx.wake s.now _).symm
      exact hnow ▸ hwake.trans (now_moves hx hforward struck)
  · intro meanwhile
    refine ⟨fun r hr ↦ ?_, fun e he ↦ ?_, fun hc ↦ ?_⟩
    · exact wait_of_settled ht (by rw [answer?, hr]) meanwhile
    · exact wait_of_settled ht (by rw [answer?, he]) meanwhile
    · exact wait_of_settled ht (by rw [answer?, hc]) meanwhile

def Sample.exchange : List (Step Int) :=
  [.event (.discard "g"), .event (.register "g" (.after 5) false)]

theorem race_is_decided_exchange : ∃ t,
    let s : Timed Int := start.moves [.event (.register "g" (.after 10) false)]
    s.correlator.ticket? 0 = some t ∧ t.outcome = .pending ∧
      (s.wait 0 (·.moves Sample.exchange)).1 = .error (.timedOut (.noResponse "g")) ∧
      (Text.ofString "g", 1) ∈ (s.wait 0 (·.moves Sample.exchange)).2.correlator.pending ∧
      10 ≤ (s.wait 0 (·.moves Sample.exchange)).2.now ∧
      (s.wait 0 (·.moves [.event (.resolve "g" Sample.clean)])).1 = .ok (.response Sample.clean) := by
  let t : Ticket Int := ⟨"g", 10, false, .pending⟩
  have ht : (start.moves [.event (.register "g" (.after 10) false)] : Timed Int).correlator.ticket? 0 =
    some t := rfl
  obtain ⟨-, hpending, -⟩ := race_is_decided _ 0 t ht
  obtain ⟨-, -, hneither, -, hothers, -, -, hclock⟩ := hpending rfl (by decide) Sample.exchange
  obtain ⟨hresolve, -⟩ := hpending rfl (by decide) [.event (.resolve "g" Sample.clean)]
  have hmem {e : Event Int} (h : Settles ((start.moves [.event (.register "g" (.after 10) false)]).strike
      t.deadline) Sample.exchange 0 e) : .event e ∈ Sample.exchange := by
    obtain ⟨before, after, hxs, -⟩ := h
    rw [hxs]
    exact List.mem_append_right _ List.mem_cons_self
  refine ⟨t, ht, rfl, hneither ?_ ?_, (hothers "g" 1 (by decide)).2 ?_, hclock Clock.isExact_int ?_,
    hresolve "g" Sample.clean ⟨[], [], rfl, ?_⟩⟩
  · intro g r h
    simpa [Sample.exchange] using hmem h
  · intro cause h
    simpa [Sample.exchange] using hmem h
  · exact List.mem_singleton_self _
  · intro x hx
    rcases List.mem_pair.1 hx with rfl | rfl <;> trivial
  · exact List.mem_singleton_self _

end Timed

end Correlator

end VerdictClient
