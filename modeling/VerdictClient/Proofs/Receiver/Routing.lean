import VerdictClient.Proofs.Correlator.Leads
import VerdictClient.Receiver.Loop

namespace VerdictClient.Receiver

variable {τ : Type}

def Event.IsRouting : Event τ → Prop
  | .frame _ | .register _ _ _ | .discard _ => True
  | .failure _ | .expectAuth | .cancelAuth => False

def response? (f : Frame) : Option VerdictResponse :=
  match Inbound.decode f with
  | .ok (.verdict v) => some v
  | _ => none

theorem response?_eq_some_iff {f : Frame} {v : VerdictResponse} :
    response? f = some v ↔ Inbound.decode f = .ok (.verdict v) := by
  unfold response?
  cases Inbound.decode f with
  | error e => simp
  | ok m => cases m <;> simp

/-- What an event decides about a ticket that is pending. -/
def Event.decides? (t : Ticket τ) : Event τ → Option (Future VerdictResponse)
  | .frame f => (response? f).bind fun v ↦
    if v.guid = t.guid ∧ t.accepts v then some (.done v) else none
  | .discard g => if g = t.guid then some .cancelled else none
  | _ => none

/-- The frame carries no response that somebody awaits. -/
def isIdle (f : Frame) (c : Correlator τ) : Bool :=
  (response? f).all fun v ↦ (c.addressee? v.guid v).isNone

variable [Clock τ]

def Event.routed (now : τ) (c : Correlator τ) : Event τ → Correlator τ
  | .frame f => ((response? f).map fun v ↦ (c.resolve v.guid v).2).getD c
  | .register g timeout fo =>
    match c.register now g timeout fo with
    | .ok p => p.2
    | .error _ => c
  | .discard g => c.discard g
  | _ => c

omit [Clock τ] in
theorem route_eq (f : Frame) (r : Receiver τ) : ∃ ls, r.route f = { r with
    correlator := ((response? f).map fun v ↦ (r.correlator.resolve v.guid v).2).getD r.correlator
    log := ls } := by
  unfold route response?
  cases Inbound.decode f with
  | error e => exact ⟨_, rfl⟩
  | ok m => cases m <;> exact ⟨_, rfl⟩

omit [Clock τ] in
theorem isIdle_iff {c : Correlator τ} (hs : c.Sound) (f : Frame) : isIdle f c = true ↔
    ∀ v, response? f = some v → ∀ n t, (v.guid, n) ∈ c.pending → c.ticket? n = some t →
      t.accepts v = false := by
  unfold isIdle
  cases response? f with
  | none => simp
  | some v =>
    simp only [Option.all_some, Option.isNone_iff_eq_none, Option.some.injEq, forall_eq']
    constructor
    · intro h n t hm ht
      by_contra hacc
      have hsome := (hs.addressee? ht ⟨_, hm⟩ v (g := v.guid)).2
        ⟨(hs.guid_eq ht hm).symm, by simpa using hacc⟩
      cases h.symm.trans hsome
    · intro h
      by_contra hne
      obtain ⟨n, hn⟩ := Option.ne_none_iff_exists'.1 hne
      have hm := hs.mem_of_addressee? hn
      obtain ⟨t, ht, -, -⟩ := hs.entry _ n hm
      have hacc := ((hs.addressee? ht ⟨_, hm⟩ v).1 hn).2
      exact absurd hacc (by simp [h n t hm ht])

theorem routed_of_isIdle {f : Frame} {c : Correlator τ} (h : isIdle f c = true) (now : τ) :
    (Event.frame f).routed now c = c := by
  unfold isIdle at h
  simp only [Event.routed]
  cases hv : response? f with
  | none => rfl
  | some v =>
    have hnone : c.addressee? v.guid v = none := by simpa [hv] using h
    simp only [Option.map_some, Option.getD_some, Correlator.resolve, hnone]

theorem leads_routed (now : τ) (c : Correlator τ) (e : Event τ) (he : e.IsRouting) :
    Correlator.Leads c (e.routed now c) fun _ t ↦ e.decides? t := by
  cases e with
  | frame f =>
    simp only [Event.routed, Event.decides?]
    cases response? f with
    | none => exact .refl c
    | some v => exact .act (a := .resolve v.guid v) trivial
  | register g timeout fo =>
    simp only [Event.routed]
    split
    · next p h =>
      obtain ⟨hc, hg, -, d, -, hp⟩ := Correlator.register_eq_ok_iff.1 h
      have ha : (Correlator.Act.enroll g d fo).IsAllowed c := ⟨hc, hg⟩
      rw [hp]
      exact .act ha
    · exact .refl c
  | discard g => exact .act (a := .discard g) trivial
  | failure | expectAuth | cancelAuth => exact he.elim

namespace Loop

variable {l l' : Loop τ} {e : Event τ} {n : Nat} {t : Ticket τ} {es : List (τ × Event τ)}

def follow (es : List (τ × Event τ)) (l : Loop τ) : Loop τ := es.foldl (fun l p ↦ l.step p.1 p.2) l

/-- The events without the frames that nobody awaits when they come. -/
def essential : List (τ × Event τ) → Loop τ → List (τ × Event τ)
  | [], _ => []
  | (now, .frame f) :: es, l =>
    if isIdle f l.receiver.correlator then essential es (l.step now (.frame f))
    else (now, .frame f) :: essential es (l.step now (.frame f))
  | p :: es, l => p :: essential es (l.step p.1 p.2)

structure Routes (l : Loop τ) : Prop where
  ended : l.ended = false
  expecting : l.receiver.expecting = none

theorem Routes.step_eq (h : Routes l) (he : e.IsRouting) (now : τ) : ∃ ls, l.step now e = { l with
    receiver := { l.receiver with correlator := e.routed now l.receiver.correlator, log := ls } } := by
  have hstep : l.step now e = (l.perform now e).2 := by simp [step, h.ended]
  rw [hstep]
  cases e with
  | frame f =>
    obtain ⟨ls, hls⟩ := l.receiver.route_eq f
    refine ⟨ls, ?_⟩
    simp only [perform, read, dispatch, h.expecting, hls]
    rfl
  | register g timeout fo =>
    refine ⟨l.receiver.log, ?_⟩
    simp only [perform, Event.routed]
    cases l.receiver.correlator.register now g timeout fo <;> rfl
  | discard g => exact ⟨l.receiver.log, rfl⟩
  | failure | expectAuth | cancelAuth => exact he.elim

theorem Routes.step (h : Routes l) (he : e.IsRouting) (now : τ) : Routes (l.step now e) := by
  obtain ⟨ls, hls⟩ := h.step_eq he now
  rw [hls]
  exact ⟨h.ended, h.expecting⟩

theorem Routes.correlator_step (h : Routes l) (he : e.IsRouting) (now : τ) :
    (l.step now e).receiver.correlator = e.routed now l.receiver.correlator := by
  obtain ⟨ls, hls⟩ := h.step_eq he now
  rw [hls]

theorem follow_append (es fs : List (τ × Event τ)) (l : Loop τ) :
    follow (es ++ fs) l = follow fs (follow es l) :=
  List.foldl_append

theorem Routes.follow (h : Routes l) (hes : ∀ p ∈ es, p.2.IsRouting) : Routes (l.follow es) ∧
    (l.follow es).reports = l.reports ∧ (l.follow es).receiver.waiters = l.receiver.waiters := by
  induction es generalizing l with
  | nil => exact ⟨h, rfl, rfl⟩
  | cons p es ih =>
    have he := hes p (List.mem_cons_self ..)
    obtain ⟨ls, hls⟩ := h.step_eq he p.1
    have hnext := ih (h.step he p.1) fun q hq ↦ hes q (List.mem_cons_of_mem p hq)
    rw [hls] at hnext
    simpa only [Loop.follow, List.foldl_cons, hls] using hnext

/-- The first event that decides a ticket is what the events make of it. -/
theorem Routes.leads (h : Routes l) (hes : ∀ p ∈ es, p.2.IsRouting) :
    Correlator.Leads l.receiver.correlator (l.follow es).receiver.correlator
      fun _ t ↦ es.findSome? fun p ↦ p.2.decides? t := by
  induction es generalizing l with
  | nil => exact .refl _
  | cons p es ih =>
    have he := hes p (List.mem_cons_self ..)
    have hstep := leads_routed p.1 l.receiver.correlator p.2 he
    rw [← h.correlator_step he] at hstep
    have hrest := ih (h.step he p.1) fun q hq ↦ hes q (List.mem_cons_of_mem p hq)
    refine (hstep.trans hrest).congr fun n t ↦ ?_
    simp only [List.findSome?_cons]
    cases p.2.decides? t <;> rfl

/-- What comes of the correlator does not depend on the rest of the loop, nor on frames that nobody
awaits. -/
theorem correlator_essential (h : Routes l) (h' : Routes l')
    (hc : l'.receiver.correlator = l.receiver.correlator) (hes : ∀ p ∈ es, p.2.IsRouting) :
    (l'.follow (essential es l)).receiver.correlator = (l.follow es).receiver.correlator := by
  induction es generalizing l l' with
  | nil => exact hc
  | cons p es ih =>
    have he := hes p (List.mem_cons_self ..)
    have hes' : ∀ q ∈ es, q.2.IsRouting := fun q hq ↦ hes q (List.mem_cons_of_mem p hq)
    have hkeep : (l'.follow (p :: essential es (l.step p.1 p.2))).receiver.correlator =
        (l.follow (p :: es)).receiver.correlator := by
      refine ih (h.step he p.1) (h'.step he p.1) ?_ hes'
      rw [h.correlator_step he, h'.correlator_step he, hc]
    obtain ⟨now, e⟩ := p
    cases e with
    | frame f =>
      unfold essential
      split
      · next hidle =>
        refine ih (h.step he now) h' ?_ hes'
        rw [h.correlator_step he, routed_of_isIdle hidle, hc]
      · exact hkeep
    | register | discard => exact hkeep
    | failure | expectAuth | cancelAuth => exact he.elim

theorem Routes.decided (h : Routes l) (hs : l.receiver.correlator.Sound)
    (hes : ∀ p ∈ es, p.2.IsRouting) (ht : l.receiver.correlator.ticket? n = some t)
    (hn : l.receiver.correlator.IsWaiting n) :
    ∃ u, (l.follow es).receiver.correlator.ticket? n = some u ∧ u.guid = t.guid ∧
      u.finalOnly = t.finalOnly ∧ u.outcome = (es.findSome? (·.2.decides? u)).getD .pending ∧
      ((u.guid, n) ∈ (l.follow es).receiver.correlator.pending ↔
        es.findSome? (·.2.decides? u) = none) := by
  have hleads := h.leads hes
  obtain ⟨⟨x, hx⟩, hiff⟩ := hleads.of_waiting hs ht hn
  have hsame (o : Future VerdictResponse) (e : Event τ) :
      e.decides? { t with deadline := x, outcome := o } = e.decides? t := by
    cases e <;> rfl
  refine ⟨_, hx, rfl, rfl, ?_, ?_⟩
  · simp only [hsame]
  · rw [(hleads.sound hs).mem_pending_iff hx, hiff]
    simp only [hsame]

theorem Routes.decided_of_register (h : Routes l) (hs : l.receiver.correlator.Sound)
    {es₁ es₂ : List (τ × Event τ)} {now : τ} {g : Text} {timeout : Timeout τ} {fo : Bool}
    (hes : ∀ p ∈ es₁ ++ (now, .register g timeout fo) :: es₂, p.2.IsRouting)
    (hr : ((l.follow es₁).perform now (.register g timeout fo)).1 = .ok (.ticket n)) :
    ∃ u, (l.follow (es₁ ++ (now, .register g timeout fo) :: es₂)).receiver.correlator.ticket? n =
        some u ∧ u.guid = g ∧ u.finalOnly = fo ∧
      u.outcome = (es₂.findSome? (·.2.decides? u)).getD .pending ∧
      ((g, n) ∈ (l.follow (es₁ ++ (now, .register g timeout fo) :: es₂)).receiver.correlator.pending ↔
        es₂.findSome? (·.2.decides? u) = none) := by
  have hes₁ : ∀ p ∈ es₁, p.2.IsRouting := fun p hp ↦ hes p (List.mem_append_left _ hp)
  have hes₂ : ∀ p ∈ es₂, p.2.IsRouting := fun p hp ↦
    hes p (List.mem_append_right _ (List.mem_cons_of_mem _ hp))
  have hroutes := (h.follow hes₁).1
  have hsound := (h.leads hes₁).sound hs
  have hnext : (Event.register g timeout fo).IsRouting := trivial
  have hc := hroutes.correlator_step hnext now
  simp only [perform] at hr
  split at hr
  · next m c hreg =>
    obtain ⟨hcl, hg, rfl, d, -, rfl⟩ := Correlator.register_eq_ok_iff.1 hreg
    obtain rfl : _ = n := by simpa using hr
    have ha : (Correlator.Act.enroll g d fo).IsAllowed (l.follow es₁).receiver.correlator := ⟨hcl, hg⟩
    simp only [Event.routed, hreg] at hc
    have hsound' := hsound.after ha
    have ht : ((l.follow es₁).receiver.correlator.enroll g d fo).ticket?
        (l.follow es₁).receiver.correlator.tickets.length = some ⟨g, d, fo, .pending⟩ :=
      List.getElem?_concat_length
    have hw : ((l.follow es₁).receiver.correlator.enroll g d fo).IsWaiting
        (l.follow es₁).receiver.correlator.tickets.length :=
      ⟨g, List.mem_append_right _ (List.mem_singleton.2 rfl)⟩
    obtain ⟨u, hu, hguid, hfo, ho, hiff⟩ := (hroutes.step hnext now).decided
      (hc ▸ hsound') hes₂ (hc ▸ ht) (hc ▸ hw)
    rw [follow_append]
    refine ⟨u, hu, hguid, hfo, ho, ?_⟩
    rw [hguid] at hiff
    exact hiff
  · cases hr

/-- As long as nobody waits for the answer to the handshake, whatever frames come, the loop goes on, and
the first event after the registration of a request that applies to it decides its outcome: a frame that
carries a response to its guid that it accepts, or that it is discarded. A frame that carries no response
that somebody awaits leaves the correlator as it is, so that nothing comes of the correlator that would
not come of it without all those frames. -/
theorem first_awaited_frame_decides (l : Loop τ) (h : Routes l) (hs : l.receiver.correlator.Sound)
    (es : List (τ × Event τ)) (hes : ∀ p ∈ es, p.2.IsRouting) :
    ((l.follow es).ended = false ∧ (l.follow es).reports = l.reports ∧
      (l.follow es).receiver.waiters = l.receiver.waiters) ∧
    (∀ n t, l.receiver.correlator.ticket? n = some t →
      (t.guid, n) ∈ l.receiver.correlator.pending →
      ∃ u, (l.follow es).receiver.correlator.ticket? n = some u ∧ u.guid = t.guid ∧
        u.finalOnly = t.finalOnly ∧ u.outcome = (es.findSome? (·.2.decides? u)).getD .pending ∧
        ((u.guid, n) ∈ (l.follow es).receiver.correlator.pending ↔
          es.findSome? (·.2.decides? u) = none)) ∧
    (∀ es₁ now g timeout fo es₂ n, es = es₁ ++ (now, .register g timeout fo) :: es₂ →
      ((l.follow es₁).perform now (.register g timeout fo)).1 = .ok (.ticket n) →
      ∃ u, (l.follow es).receiver.correlator.ticket? n = some u ∧ u.guid = g ∧ u.finalOnly = fo ∧
        u.outcome = (es₂.findSome? (·.2.decides? u)).getD .pending ∧
        ((g, n) ∈ (l.follow es).receiver.correlator.pending ↔
          es₂.findSome? (·.2.decides? u) = none)) ∧
    (∀ n t, l.receiver.correlator.ticket? n = some t →
      (t.guid, n) ∉ l.receiver.correlator.pending →
      ∃ u, (l.follow es).receiver.correlator.ticket? n = some u ∧ u.outcome = t.outcome ∧
        (u.guid, n) ∉ (l.follow es).receiver.correlator.pending) ∧
    (∀ es₁ now f es₂, es = es₁ ++ (now, .frame f) :: es₂ →
      (∀ v n t, Inbound.decode f = .ok (.verdict v) →
        (v.guid, n) ∈ (l.follow es₁).receiver.correlator.pending →
        (l.follow es₁).receiver.correlator.ticket? n = some t → t.accepts v = false) →
      ((l.follow es₁).step now (.frame f)).receiver.correlator =
        (l.follow es₁).receiver.correlator) ∧
    (l.follow (essential es l)).receiver.correlator = (l.follow es).receiver.correlator := by
  obtain ⟨hroutes, hreports, hwaiters⟩ := h.follow hes
  have hend := (h.leads hes).sound hs
  refine ⟨⟨hroutes.ended, hreports, hwaiters⟩, fun n t ht hm ↦ h.decided hs hes ht ⟨_, hm⟩,
    fun es₁ now g timeout fo es₂ n heq hr ↦ ?_, fun n t ht hm ↦ ?_,
    fun es₁ now f es₂ heq hidle ↦ ?_, correlator_essential h h rfl hes⟩
  · subst heq
    exact h.decided_of_register hs hes hr
  · have hoff : ¬l.receiver.correlator.IsWaiting n := fun hw ↦ hm ((hs.mem_pending_iff ht).2 hw)
    obtain ⟨hoff', x, hx⟩ := (h.leads hes).of_not_waiting hs ht hoff
    exact ⟨_, hx, rfl, fun hm' ↦ hoff' ((hend.mem_pending_iff hx).1 hm')⟩
  · subst heq
    have hes₁ : ∀ p ∈ es₁, p.2.IsRouting := fun p hp ↦ hes p (List.mem_append_left _ hp)
    have hframe : (Event.frame f : Event τ).IsRouting := trivial
    have hstill : isIdle f (l.follow es₁).receiver.correlator = true := by
      refine (isIdle_iff ((h.leads hes₁).sound hs) f).2 fun v hv n t hm ht ↦ ?_
      exact hidle v n t (response?_eq_some_iff.1 hv) hm ht
    rw [(h.follow hes₁).1.correlator_step hframe, routed_of_isIdle hstill]

def Sample.answer (guid verdict : Text) : Frame :=
  .text ("\x7b\"kind\":\"VerdictResponse\",\"guid\":\"" ++ guid ++
    "\",\"verdict\":\"" ++ verdict ++ "\"\x7d")

def Sample.answers : List (Int × Event Int) :=
  [(1, .frame (.text "oops")), (2, .frame (answer "h" "Clean")), (3, .frame (answer "g" "Pup")),
    (4, .frame (answer "g" "Clean"))]

theorem Sample.responses : response? (.text "oops") = none ∧
    response? (answer "h" "Clean") = some ⟨"h", .clean, [], none, none, none⟩ ∧
    response? (answer "g" "Pup") = some ⟨"g", .pup, [], none, none, none⟩ := by
  decide +kernel

theorem first_awaited_frame_decides_late :
    ∃ u, ((start : Loop Int).follow ((0, .register "g" (.after 10) false) :: Sample.answers)
      ).receiver.correlator.ticket? 0 = some u ∧
      u.outcome = .done ⟨"g", .pup, [], none, none, none⟩ := by
  have hall := first_awaited_frame_decides start ⟨rfl, rfl⟩ Correlator.sound_empty
    ((0, .register "g" (.after 10) false) :: Sample.answers)
    (by simp [Sample.answers, Event.IsRouting])
  obtain ⟨-, -, hdecide, -⟩ := hall
  obtain ⟨u, hu, hg, hf, ho, -⟩ := hdecide [] 0 "g" (.after 10) false Sample.answers 0 rfl rfl
  obtain ⟨hnone, hother, hpup⟩ := Sample.responses
  have hne : Text.ofString "h" ≠ Text.ofString "g" := by decide
  refine ⟨u, hu, ho.trans ?_⟩
  simp [Sample.answers, Event.decides?, hnone, hother, hpup, hg, hf, hne, Ticket.accepts]

end Loop

end VerdictClient.Receiver
