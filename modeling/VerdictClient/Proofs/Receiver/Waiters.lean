import VerdictClient.Proofs.Receiver.Loop
import VerdictClient.Proofs.Receiver.Routing

namespace VerdictClient

theorem Future.pending_settle {α : Type} (u : Future α) : Future.settle .pending u = u := by
  cases u <;> rfl

theorem Future.settle_settle_of_ne_pending {α : Type} {p : Future α} (h : p ≠ .pending)
    (o u : Future α) : Future.settle o (Future.settle p u) = Future.settle p u := by
  cases u with
  | pending => exact settle_of_ne_pending h
  | done | failed | cancelled => rfl

namespace Receiver

variable {τ : Type} {r : Receiver τ} {f : Frame}

/-- What an event tells a waiter that expects the next frame. -/
def Event.tells? : Event τ → Option (Future AuthResponse)
  | .frame f => (handshakeOutcome f).toOption
  | .failure f => some (.failed (.closed (closingCause (.ofFailure f))))
  | .cancelAuth => some .cancelled
  | .expectAuth | .register _ _ _ | .discard _ => none

def Event.IsReadable (e : Event τ) : Prop :=
  ∀ f, e = .frame f → ∀ c, AuthResponse.decode f ≠ .error (.tooDeep c)

theorem exists_handshakeOutcome (h : (Event.frame f : Event τ).IsReadable) :
    ∃ o, handshakeOutcome f = .ok o := by
  unfold handshakeOutcome
  split
  · exact ⟨_, rfl⟩
  · exact ⟨_, rfl⟩
  · next c hc => exact absurd hc (h f rfl c)

theorem Event.tells?_ne_pending (e : Event τ) : e.tells? ≠ some .pending := by
  cases e with
  | frame f =>
    cases ho : handshakeOutcome f with
    | ok o =>
      have hp := (isTold_of_handshakeOutcome ho).2
      simpa [tells?, ho, Except.toOption] using hp
    | error c => simp [tells?, ho, Except.toOption]
  | _ => simp [tells?]

def Event.announced (e : Event τ) : List (Future AuthResponse) :=
  if e.isExpectAuth then [.pending] else []

theorem Waits.expecting_iff (h : Waits False r) {w : Nat} :
    r.expecting = some w ↔ r.waiters[w]? = some .pending :=
  ⟨h.expected w, fun hw ↦ (h.waiting w hw).resolve_right id⟩

theorem Waits.ne_pending (h : Waits False r) (hr : r.expecting = none) : ∀ o ∈ r.waiters, o ≠ .pending := by
  rintro _ ho rfl
  obtain ⟨w, hw⟩ := List.mem_iff_getElem?.1 ho
  cases hr.symm.trans (h.expecting_iff.2 hw)

theorem map_settle_of_ne_pending {us : List (Future AuthResponse)} (h : ∀ u ∈ us, u ≠ .pending)
    (o : Future AuthResponse) : us.map (Future.settle o) = us :=
  (List.map_congr_left fun u hu ↦ Future.settle_of_ne_pending (h u hu)).trans (List.map_id us)

theorem map_pending_settle (us : List (Future AuthResponse)) : us.map (Future.settle .pending) = us :=
  (List.map_congr_left fun u _ ↦ u.pending_settle).trans (List.map_id us)

namespace Loop

structure Attends (l : Loop τ) : Prop where
  waits : Waits False l.receiver
  quiet : l.ended = true → l.receiver.expecting = none

variable {l l' : Loop τ} {e : Event τ} {es : List (τ × Event τ)} {w : Nat} {u : Future AuthResponse}

theorem attends_start : Attends (start : Loop τ) := ⟨waits_empty, fun h ↦ (by cases h)⟩

theorem Attends.keep (h : Attends l) (hw : l'.receiver.waiters = l.receiver.waiters)
    (he : l'.receiver.expecting = l.receiver.expecting) (hl : l'.ended = l.ended) : Attends l' :=
  ⟨h.waits.change (.keep hw he), fun hend ↦ he.trans (h.quiet (hl.symm.trans hend))⟩

theorem Attends.ne_pending (h : Attends l) (hl : l.ended = true) : ∀ o ∈ l.receiver.waiters, o ≠ .pending :=
  h.waits.ne_pending (h.quiet hl)

theorem Attends.read (h : Attends l) (hf : (Event.frame f : Event τ).IsReadable) :
    (l.read f).receiver.waiters =
      l.receiver.waiters.map (Future.settle (((Event.frame f : Event τ).tells?).getD .pending)) ∧
    (l.read f).ended = l.ended ∧ Waits False (l.read f).receiver ∧
    (l.read f).receiver.expecting = none := by
  obtain ⟨o, ho⟩ := exists_handshakeOutcome hf
  have htells : (Event.frame f : Event τ).tells? = some o := by simp [Event.tells?, ho, Except.toOption]
  rw [htells, Option.getD_some]
  cases hr : l.receiver.expecting with
  | none =>
    have hread : l.read f = { l with receiver := l.receiver.route f } := by
      simp only [Loop.read, dispatch, hr]
    obtain ⟨hw, he⟩ := l.receiver.route_frame f
    rw [hread]
    refine ⟨?_, rfl, h.waits.change (.keep hw he), he.trans hr⟩
    rw [map_settle_of_ne_pending (h.waits.ne_pending hr)]
    exact hw
  | some n =>
    have hread : l.read f = { l with receiver := l.receiver.settleWaiter o } := by
      simp only [Loop.read, dispatch, hr, takeAnswer, ho]
    obtain ⟨htold, hp⟩ := isTold_of_handshakeOutcome ho
    rw [hread]
    exact ⟨h.waits.waiters_settleWaiter o, rfl, h.waits.change (l.receiver.change_settleWaiter htold hp),
      l.receiver.expecting_settleWaiter o⟩

theorem Attends.finish (h : Attends l) (x : Error) :
    (l.finish x l.receiver).receiver.waiters =
      l.receiver.waiters.map (Future.settle (.failed (.closed (closingCause x)))) ∧
    Attends (l.finish x l.receiver) := by
  obtain ⟨hw, he, -⟩ := l.receiver.noteEnd_frame x
  have hwaits : Waits False (l.receiver.noteEnd x) := h.waits.change (.keep hw he)
  have htold : (l.finish x l.receiver).receiver.waiters =
      ((l.receiver.noteEnd x).failWaiter (closingCause x)).waiters := rfl
  refine ⟨?_, ?_, fun _ ↦ expecting_settleWaiter _ _⟩
  · rw [htold, failWaiter, hwaits.waiters_settleWaiter, hw]
  · exact (hwaits.change (change_failWaiter _ _)).change (.keep rfl rfl)

variable [Clock τ]

theorem step_of_ended (h : l.ended = true) (now : τ) (e : Event τ) : l.step now e = l := if_pos h

theorem step_of_running (h : l.ended = false) (now : τ) (e : Event τ) :
    l.step now e = (l.perform now e).2 := by
  simp only [step, h, Bool.false_eq_true, if_false]

theorem Attends.step (h : Attends l) (hl : l.ended = false) (now : τ) (hf : e.IsReadable)
    (he : e = .expectAuth → ∀ o ∈ l.receiver.waiters, o ≠ .pending) :
    (l.step now e).receiver.waiters =
      l.receiver.waiters.map (Future.settle (e.tells?.getD .pending)) ++ e.announced ∧
    Attends (l.step now e) := by
  rw [step_of_running hl]
  cases e with
  | frame f =>
    obtain ⟨hw, hend, hwaits, hr⟩ := h.read hf
    exact ⟨hw.trans (List.append_nil _).symm, hwaits, fun _ ↦ hr⟩
  | failure f =>
    obtain ⟨hw, hattends⟩ := h.finish (.ofFailure f)
    exact ⟨hw.trans (List.append_nil _).symm, hattends⟩
  | expectAuth =>
    have hwaits := h.waits.expect (he rfl)
    refine ⟨?_, hwaits, fun hend ↦ ?_⟩
    · rw [Event.tells?, Option.getD_none, map_pending_settle]
      rfl
    · cases hl.symm.trans hend
  | cancelAuth =>
    have hw := h.waits.waiters_settleWaiter .cancelled
    exact ⟨hw.trans (List.append_nil _).symm, h.waits.change l.receiver.change_cancelAuth,
      fun _ ↦ expecting_settleWaiter _ _⟩
  | register g timeout fo =>
    have hkeep : (l.perform now (.register g timeout fo)).2.receiver.waiters = l.receiver.waiters ∧
        (l.perform now (.register g timeout fo)).2.receiver.expecting = l.receiver.expecting ∧
        (l.perform now (.register g timeout fo)).2.ended = l.ended := by
      simp only [perform]
      split <;> exact ⟨rfl, rfl, rfl⟩
    obtain ⟨hw, hx, hend⟩ := hkeep
    refine ⟨?_, h.keep hw hx hend⟩
    rw [hw, Event.tells?, Option.getD_none, map_pending_settle]
    exact (List.append_nil _).symm
  | discard g =>
    refine ⟨?_, h.keep rfl rfl rfl⟩
    rw [Event.tells?, Option.getD_none, map_pending_settle]
    exact (List.append_nil _).symm

theorem Attends.waiter_step (h : Attends l) (now : τ) (hf : e.IsReadable)
    (he : e = .expectAuth → ∀ o ∈ l.receiver.waiters, o ≠ .pending)
    (hw : l.receiver.waiters[w]? = some u) :
    (l.step now e).receiver.waiters[w]? = some (Future.settle (e.tells?.getD .pending) u) ∧
      Attends (l.step now e) := by
  cases hl : l.ended with
  | true =>
    rw [step_of_ended hl, Future.settle_of_ne_pending (h.ne_pending hl u (List.mem_of_getElem? hw))]
    exact ⟨hw, h⟩
  | false =>
    obtain ⟨hwaiters, hattends⟩ := h.step hl now hf he
    refine ⟨?_, hattends⟩
    have hlt := (List.getElem?_eq_some_iff.1 hw).1
    rw [hwaiters, List.getElem?_append_left (by rwa [List.length_map]), List.getElem?_map, hw,
      Option.map_some]

/-- Somebody announces to wait only when nobody waits. -/
def TakesTurns (es : List (τ × Event τ)) (l : Loop τ) : Prop :=
  ∀ es₁ now es₂, es = es₁ ++ (now, .expectAuth) :: es₂ →
    ∀ o ∈ (l.follow es₁).receiver.waiters, o ≠ .pending

theorem takesTurns_cons {now : τ} : TakesTurns ((now, e) :: es) l ↔
    (e = .expectAuth → ∀ o ∈ l.receiver.waiters, o ≠ .pending) ∧ TakesTurns es (l.step now e) := by
  constructor
  · refine fun h ↦ ⟨?_, fun es₁ moment es₂ hes ↦ ?_⟩
    · rintro rfl
      exact h [] now es rfl
    · exact h ((now, e) :: es₁) moment es₂ (by rw [hes]; rfl)
  · rintro ⟨hfirst, hrest⟩ es₁ moment es₂ hes
    cases es₁ with
    | nil =>
      have he : e = .expectAuth := congrArg Prod.snd (List.cons.inj hes).1
      exact hfirst he
    | cons p es₁ =>
      obtain ⟨hp, hes⟩ := List.cons.inj hes
      rw [← hp]
      exact hrest es₁ moment es₂ hes

theorem takesTurns_nil (l : Loop τ) : TakesTurns [] l := by
  intro es₁ now es₂ hes
  simp at hes

theorem TakesTurns.append_left {es₁ es₂ : List (τ × Event τ)} (h : TakesTurns (es₁ ++ es₂) l) :
    TakesTurns es₁ l := by
  intro es now es' hes
  exact h es now (es' ++ es₂) (by rw [hes, List.append_assoc, List.cons_append])

theorem TakesTurns.append_right {es₁ es₂ : List (τ × Event τ)} (h : TakesTurns (es₁ ++ es₂) l) :
    TakesTurns es₂ (l.follow es₁) := by
  intro es now es' hes
  rw [← follow_append]
  exact h (es₁ ++ es) now es' (by rw [hes, List.append_assoc])

theorem Attends.follow (h : Attends l) (hturn : TakesTurns es l) (hread : ∀ p ∈ es, p.2.IsReadable) :
    Attends (l.follow es) := by
  induction es generalizing l with
  | nil => exact h
  | cons p es ih =>
    obtain ⟨hfirst, hrest⟩ := takesTurns_cons.1 hturn
    have hnext : Attends (l.step p.1 p.2) := by
      cases hl : l.ended with
      | true => rwa [step_of_ended hl]
      | false => exact (h.step hl p.1 (hread p List.mem_cons_self) hfirst).2
    exact ih hnext hrest fun q hq ↦ hread q (List.mem_cons_of_mem p hq)

/-- The first event that tells a waiter something settles it. -/
theorem Attends.waiter_follow (h : Attends l) (hturn : TakesTurns es l)
    (hread : ∀ p ∈ es, p.2.IsReadable) (hw : l.receiver.waiters[w]? = some u) :
    (l.follow es).receiver.waiters[w]? =
      some (Future.settle ((es.findSome? (·.2.tells?)).getD .pending) u) := by
  induction es generalizing l u with
  | nil => rw [List.findSome?_nil, Option.getD_none, Future.pending_settle]; exact hw
  | cons p es ih =>
    obtain ⟨hfirst, hrest⟩ := takesTurns_cons.1 hturn
    obtain ⟨hw', hnext⟩ := h.waiter_step p.1 (hread p List.mem_cons_self) hfirst hw
    have hlast := ih hnext hrest (fun q hq ↦ hread q (List.mem_cons_of_mem p hq)) hw'
    rw [List.findSome?_cons]
    cases ht : p.2.tells? with
    | none => rwa [ht, Option.getD_none, Future.pending_settle] at hlast
    | some o =>
      have ho : o ≠ .pending := fun ho ↦ p.2.tells?_ne_pending (ho ▸ ht)
      rwa [ht, Option.getD_some, Future.settle_settle_of_ne_pending ho] at hlast

theorem Attends.settled_follow (h : Attends l) (hturn : TakesTurns es l)
    (hread : ∀ p ∈ es, p.2.IsReadable) (hw : l.receiver.waiters[w]? = some u) (hu : u ≠ .pending) :
    (l.follow es).receiver.waiters[w]? = some u := by
  rw [h.waiter_follow hturn hread hw, Future.settle_of_ne_pending hu]

theorem Attends.ended_frame (h : Attends l) (now : τ) (hf : (Event.frame f : Event τ).IsReadable) :
    (l.step now (.frame f)).ended = l.ended := by
  cases hl : l.ended with
  | true => rw [step_of_ended hl, hl]
  | false =>
    rw [step_of_running hl]
    exact (h.read hf).2.1.trans hl

theorem Attends.correlator_frame (h : Attends l) (now : τ) (hf : (Event.frame f : Event τ).IsReadable)
    (hw : l.receiver.waiters[w]? = some .pending) :
    (l.step now (.frame f)).receiver.correlator = l.receiver.correlator ∧ l.ended = false := by
  have hr : l.receiver.expecting = some w := h.waits.expecting_iff.2 hw
  cases hl : l.ended with
  | true => cases (h.quiet hl).symm.trans hr
  | false =>
    obtain ⟨o, ho⟩ := exists_handshakeOutcome hf
    have hstep : l.step now (.frame f) = { l with receiver := l.receiver.settleWaiter o } := by
      rw [step_of_running hl]
      simp only [perform, Loop.read, dispatch, hr, takeAnswer, ho]
    rw [hstep]
    exact ⟨correlator_settleWaiter _ _, rfl⟩

theorem Attends.waiters_frame (h : Attends l) (now : τ) (hf : (Event.frame f : Event τ).IsReadable)
    (hw : ∀ o ∈ l.receiver.waiters, o ≠ .pending) :
    (l.step now (.frame f)).receiver.waiters = l.receiver.waiters := by
  cases hl : l.ended with
  | true => rw [step_of_ended hl]
  | false =>
    rw [(h.step hl now hf fun he ↦ by cases he).1, map_settle_of_ne_pending hw]
    exact List.append_nil _

/-- While somebody waits for the answer to the handshake the next frame is that answer, whatever it says,
and no response to a request; every other frame leaves all waiters alone. If somebody announces to wait
only when nobody waits, and no frame nests too deep, every waiter is settled by the first frame, the first
cancellation or the end of reading after it was announced; nothing settles a waiter that is settled, and
no frame ends the loop, nor one that answers too late. -/
theorem one_consumer_per_frame (es : List (τ × Event τ)) (hturn : TakesTurns es start)
    (hread : ∀ now f, (now, .frame f) ∈ es → ∀ c, AuthResponse.decode f ≠ .error (.tooDeep c)) :
    (∀ es₁ now f es₂ (w : Nat), es = es₁ ++ (now, .frame f) :: es₂ →
      (start.follow es₁).receiver.waiters[w]? = some .pending →
      (∀ a, AuthResponse.decode f = .ok a →
        ((start.follow es₁).step now (.frame f)).receiver.waiters[w]? = some (.done a)) ∧
      (∀ c, AuthResponse.decode f = .error (.undecodable c) →
        ∃ x : AuthenticationCause, x.message = c.message ∧
          ((start.follow es₁).step now (.frame f)).receiver.waiters[w]? =
            some (.failed (.authentication x))) ∧
      ((start.follow es₁).step now (.frame f)).receiver.correlator =
        (start.follow es₁).receiver.correlator ∧
      ((start.follow es₁).step now (.frame f)).ended = false) ∧
    (∀ es₁ now f es₂, es = es₁ ++ (now, .frame f) :: es₂ →
      (∀ o ∈ (start.follow es₁).receiver.waiters, o ≠ .pending) →
      ((start.follow es₁).step now (.frame f)).receiver.waiters =
        (start.follow es₁).receiver.waiters ∧
      ((start.follow es₁).step now (.frame f)).ended = (start.follow es₁).ended) ∧
    (∀ es₁ now es₂, es = es₁ ++ (now, .expectAuth) :: es₂ → (start.follow es₁).ended = false →
      ∃ n, ((start.follow es₁).perform now .expectAuth).1 = .ok (.waiter n) ∧
        (start.follow es).receiver.waiters[n]? =
          some ((es₂.findSome? (·.2.tells?)).getD .pending)) ∧
    (∀ es₁ es₂, es = es₁ ++ es₂ →
      (∀ w : Nat, (start.follow es₁).receiver.expecting = some w ↔
        (start.follow es₁).receiver.waiters[w]? = some .pending) ∧
      ∀ (w : Nat) u, (start.follow es₁).receiver.waiters[w]? = some u → u ≠ .pending →
        (start.follow es).receiver.waiters[w]? = some u) ∧
    ∀ es₁ now es₂ moment f es₃ (w : Nat),
      es = es₁ ++ (now, .cancelAuth) :: (es₂ ++ (moment, .frame f) :: es₃) →
      (start.follow es₁).receiver.waiters[w]? = some .pending →
      (start.follow es).receiver.waiters[w]? = some .cancelled ∧
      ((start.follow (es₁ ++ (now, .cancelAuth) :: es₂)).step moment (.frame f)).ended =
        (start.follow (es₁ ++ (now, .cancelAuth) :: es₂)).ended := by
  have hreadable : ∀ p ∈ es, p.2.IsReadable := by
    rintro ⟨now, e⟩ hp f rfl c
    exact hread now f hp c
  -- What is true of the loop after some of the events, and of the events that are still to come.
  have hsplit {es₁ es₂ : List (τ × Event τ)} (hes : es = es₁ ++ es₂) :
      Attends (start.follow es₁) ∧ TakesTurns es₂ (start.follow es₁) ∧ ∀ p ∈ es₂, p.2.IsReadable := by
    subst hes
    exact ⟨attends_start.follow hturn.append_left fun p hp ↦ hreadable p (List.mem_append_left _ hp),
      hturn.append_right, fun p hp ↦ hreadable p (List.mem_append_right _ hp)⟩
  refine ⟨fun es₁ now f es₂ w hes hw ↦ ?_, fun es₁ now f es₂ hes hnone ↦ ?_,
    fun es₁ now es₂ hes hend ↦ ?_, fun es₁ es₂ hes ↦ ?_, fun es₁ now es₂ moment f es₃ w hes hw ↦ ?_⟩
  · obtain ⟨hattends, hturns, hreads⟩ := hsplit hes
    have hf := hreads _ List.mem_cons_self
    obtain ⟨hcor, hend⟩ := hattends.correlator_frame now hf hw
    obtain ⟨htold, -⟩ := hattends.waiter_step now hf (fun he ↦ by cases he) hw
    rw [hattends.ended_frame now hf, htold]
    refine ⟨fun a ha ↦ ?_, fun c hc ↦ ⟨.undecodable c, rfl, ?_⟩, hcor, hend⟩
    · simp [Event.tells?, handshakeOutcome, ha, Except.toOption]
    · simp [Event.tells?, handshakeOutcome, hc, Except.toOption]
  · obtain ⟨hattends, -, hreads⟩ := hsplit hes
    have hf := hreads _ List.mem_cons_self
    exact ⟨hattends.waiters_frame now hf hnone, hattends.ended_frame now hf⟩
  · obtain ⟨hattends, hturns, hreads⟩ := hsplit hes
    obtain ⟨hfirst, hrest⟩ := takesTurns_cons.1 hturns
    obtain ⟨hw, hnext⟩ := hattends.step hend now (hreads _ List.mem_cons_self) hfirst
    have hnew : ((start.follow es₁).step now .expectAuth).receiver.waiters[
        (start.follow es₁).receiver.waiters.length]? = some .pending := by
      rw [hw, Event.tells?, Option.getD_none, map_pending_settle]
      exact List.getElem?_concat_length
    refine ⟨(start.follow es₁).receiver.waiters.length, rfl, ?_⟩
    have hlast := hnext.waiter_follow hrest (fun p hp ↦ hreads p (List.mem_cons_of_mem _ hp)) hnew
    rw [hes, follow_append]
    exact hlast
  · obtain ⟨hattends, hturns, hreads⟩ := hsplit hes
    refine ⟨fun w ↦ hattends.waits.expecting_iff, fun w u hw hu ↦ ?_⟩
    rw [hes, follow_append]
    exact hattends.settled_follow hturns hreads hw hu
  · obtain ⟨hattends, hturns, hreads⟩ := hsplit hes
    have hlate : es = (es₁ ++ (now, .cancelAuth) :: es₂) ++ (moment, .frame f) :: es₃ := by
      rw [hes, List.append_assoc, List.cons_append]
    obtain ⟨hattends', -, hreads'⟩ := hsplit hlate
    refine ⟨?_, ?_⟩
    · rw [hes, follow_append, hattends.waiter_follow hturns hreads hw]
      rfl
    · exact hattends'.ended_frame moment (hreads' _ List.mem_cons_self)

def Sample.attempts : List (Int × Event Int) :=
  [(0, .register "g" (.after 10) false), (1, .expectAuth), (2, .frame (answer "g" "Clean")),
    (3, .expectAuth), (4, .cancelAuth), (5, .frame (answer "g" "Pup"))]

theorem Sample.attempts_takeTurns : TakesTurns attempts start := by
  have hnone (e : Event Int) (l : Loop Int) (he : e.isExpectAuth = false) : e = .expectAuth →
      ∀ o ∈ l.receiver.waiters, o ≠ .pending := by
    rintro rfl
    cases he
  refine takesTurns_cons.2 ⟨hnone _ _ rfl, takesTurns_cons.2 ⟨fun _ ↦ by decide, ?_⟩⟩
  refine takesTurns_cons.2 ⟨hnone _ _ rfl, takesTurns_cons.2 ⟨fun _ ↦ by decide +kernel, ?_⟩⟩
  exact takesTurns_cons.2 ⟨hnone _ _ rfl, takesTurns_cons.2 ⟨hnone _ _ rfl, takesTurns_nil _⟩⟩

theorem Sample.answer_kind (f : Frame) (hf : f = answer "g" "Clean" ∨ f = answer "g" "Pup") :
    AuthResponse.decode f = .error (.undecodable (.otherKind (Text.quoted "VerdictResponse"))) := by
  have hkind (x : Except HandshakeError AuthResponse) (c : DecodeCause)
      (hx : (match x with | .error (.undecodable d) => some d | _ => none) = some c) :
      x = .error (.undecodable c) := by
    split at hx
    · rw [Option.some_inj.1 hx]
    · cases hx
  obtain rfl | rfl := hf
  · exact hkind _ _ (by decide +kernel)
  · exact hkind _ _ (by decide +kernel)

theorem one_consumer_per_frame_misdirected :
    (∃ x : AuthenticationCause, x.message = "Expected AuthResponse, got 'VerdictResponse'" ∧
      (start.follow Sample.attempts).receiver.waiters[0]? = some (.failed (.authentication x))) ∧
    (start.follow (Sample.attempts.take 3)).receiver.correlator =
      (start.follow (Sample.attempts.take 2)).receiver.correlator ∧
    (start.follow Sample.attempts).receiver.waiters[1]? = some .cancelled ∧
    (start.follow Sample.attempts).ended = false := by
  have hread : ∀ now f, (now, .frame f) ∈ Sample.attempts →
      ∀ c, AuthResponse.decode f ≠ .error (.tooDeep c) := by
    intro now f hf c hc
    simp only [Sample.attempts, List.mem_cons, Prod.mk.injEq, Event.frame.injEq, reduceCtorEq, and_false,
      false_or, or_false, List.not_mem_nil] at hf
    cases (Sample.answer_kind f (hf.imp And.right And.right)).symm.trans hc
  obtain ⟨hwindow, -, -, hkeep, hlate⟩ :=
    one_consumer_per_frame Sample.attempts Sample.attempts_takeTurns hread
  obtain ⟨-, htold, hrequests, -⟩ := hwindow (Sample.attempts.take 2) 2 _ _ 0 rfl rfl
  obtain ⟨x, hx, hw⟩ := htold _ (Sample.answer_kind _ (.inl rfl))
  obtain ⟨hcancelled, hend⟩ := hlate (Sample.attempts.take 4) 4 [] 5 _ [] 1 rfl (by decide +kernel)
  refine ⟨⟨x, hx.trans (by decide +kernel), ?_⟩, hrequests, hcancelled, hend.trans (by decide +kernel)⟩
  exact (hkeep (Sample.attempts.take 3) _ rfl).2 0 _ hw (by simp)

end Loop

end Receiver

end VerdictClient
