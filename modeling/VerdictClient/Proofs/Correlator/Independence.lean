import VerdictClient.Proofs.Correlator.Race

namespace VerdictClient.Correlator

section

variable {α : Type} {p : α → Bool} {f : α → α} {l : List α} {n : Nat} {a : α}

theorem getElem?_filter_countP (ha : l[n]? = some a) (hp : p a = true) :
    (l.filter p)[(l.take n).countP p]? = some a := by
  induction l generalizing n with
  | nil => cases ha
  | cons b l ih =>
    cases n with
    | zero =>
      obtain rfl := Option.some.inj ha
      simp [hp]
    | succ n =>
      have h := ih (n := n) ha
      cases hb : p b <;> simp [hb, h]

theorem filter_modify_of_pos (hf : ∀ a, p (f a) = p a) (ha : l[n]? = some a) (hp : p a = true) :
    (l.modify n f).filter p = (l.filter p).modify ((l.take n).countP p) f := by
  induction l generalizing n with
  | nil => cases ha
  | cons b l ih =>
    cases n with
    | zero =>
      obtain rfl := Option.some.inj ha
      simp [hp, hf]
    | succ n =>
      have h := ih (n := n) ha
      cases hb : p b <;> simp [hb, h]

theorem filter_modify_of_neg (hf : ∀ a, p (f a) = p a) (ha : l[n]? = some a) (hp : p a = false) :
    (l.modify n f).filter p = l.filter p := by
  induction l generalizing n with
  | nil => cases ha
  | cons b l ih =>
    cases n with
    | zero =>
      obtain rfl := Option.some.inj ha
      simp [hp, hf]
    | succ n =>
      have h := ih (n := n) ha
      cases hb : p b <;> simp [hb, h]

theorem countP_modify (hf : ∀ a, p (f a) = p a) (l : List α) (n : Nat) :
    (l.modify n f).countP p = l.countP p := by
  induction l generalizing n with
  | nil => simp
  | cons b l ih =>
    cases n with
    | zero => simp [List.countP_cons, hf]
    | succ n => simp [List.countP_cons, ih n]

end

variable {τ : Type} {c : Correlator τ} {g h : Text} {n m : Nat} {t : Ticket τ}

def rank (g : Text) (n : Nat) (c : Correlator τ) : Nat := (c.tickets.take n).countP (·.guid = g)

/-- What a guid sees of a correlator: its own tickets, numbered among themselves, and which of them is
waited for. -/
def only (g : Text) (c : Correlator τ) : Correlator τ where
  tickets := c.tickets.filter (·.guid = g)
  pending := (c.pending.filter (·.1 = g)).map fun p ↦ (p.1, c.rank g p.2)
  closed := c.closed

theorem only_eq {d : Correlator τ} (ht : c.tickets.filter (·.guid = g) = d.tickets)
    (hp : ((c.pending.filter (·.1 = g)).map fun p ↦ (p.1, c.rank g p.2)) = d.pending)
    (hc : c.closed = d.closed) : c.only g = d := by
  rw [only, ht, hp, hc]

theorem rank_settle (o : Future VerdictResponse) : (c.settle m o).rank g n = c.rank g n := by
  rw [rank, rank, settle, List.take_modify]
  exact countP_modify (f := Ticket.settle o) (fun _ ↦ rfl) _ _

theorem rank_enroll {d : τ} {fo : Bool} (hn : n ≤ c.tickets.length) :
    (c.enroll h d fo).rank g n = c.rank g n := by
  rw [rank, rank, enroll, List.take_append_of_le_length hn]

theorem rank_length : c.rank g c.tickets.length = (c.only g).tickets.length := by
  rw [rank, List.take_length, List.countP_eq_length_filter, only]

theorem find?_only : (c.only g).find? g = (c.find? g).map (c.rank g) := by
  simp only [find?, only]
  induction c.pending with
  | nil => rfl
  | cons p ps ih =>
    obtain ⟨k, i⟩ := p
    by_cases hk : k = g
    · subst hk
      simp
    · rw [List.filter_cons_of_neg (by simpa using hk), ih, List.lookup_cons,
        beq_false_of_ne (Ne.symm hk)]

theorem contains_only : (c.only g).contains g = c.contains g := by
  rw [contains, find?_only, Option.isSome_map, contains]

theorem ticket?_only (ht : c.ticket? n = some t) (hg : t.guid = g) :
    (c.only g).ticket? (c.rank g n) = some t :=
  getElem?_filter_countP ht (by simpa using hg)

theorem Sound.addressee?_only (hs : c.Sound) (r : VerdictResponse) :
    (c.only g).addressee? g r = (c.addressee? g r).map (c.rank g) := by
  rw [Correlator.addressee?, Correlator.addressee?, find?_only]
  cases hn : c.find? g with
  | none => rfl
  | some n =>
    obtain ⟨t, ht, hg, -⟩ := hs.entry g n (hs.find?_eq_some_iff.1 hn)
    simp only [Option.map_some, Option.filter_some, ticket?_only ht hg, ht]
    split <;> rfl

theorem only_drop_settle_self (hs : c.Sound) (hn : (g, n) ∈ c.pending) (o : Future VerdictResponse) :
    ((c.drop g).settle n o).only g = ((c.only g).drop g).settle (c.rank g n) o := by
  obtain ⟨t, ht, hg, -⟩ := hs.entry g n hn
  have htickets : (c.tickets.modify n (Ticket.settle o)).filter (·.guid = g) =
      (c.tickets.filter (·.guid = g)).modify (c.rank g n) (Ticket.settle o) :=
    filter_modify_of_pos (fun _ ↦ rfl) ht (by simpa using hg)
  have hleft : (c.drop g).pending.filter (·.1 = g) = [] := by
    apply List.filter_eq_nil_iff.2
    intro p hp
    simpa using (mem_drop.1 hp).2
  have hright : (c.only g).pending.filter (·.1 ≠ g) = [] := by
    apply List.filter_eq_nil_iff.2
    intro p hp
    obtain ⟨q, hq, rfl⟩ := List.mem_map.1 hp
    simpa using (List.mem_filter.1 hq).2
  have hpending : ((c.drop g).settle n o).pending.filter (·.1 = g) = [] := hleft
  refine only_eq htickets ?_ rfl
  rw [hpending]
  exact hright.symm

theorem only_drop_settle_other (hs : c.Sound) (hn : (h, n) ∈ c.pending) (hgh : g ≠ h)
    (o : Future VerdictResponse) : ((c.drop h).settle n o).only g = c.only g := by
  obtain ⟨t, ht, hguid, -⟩ := hs.entry h n hn
  have htickets : (c.tickets.modify n (Ticket.settle o)).filter (·.guid = g) =
      c.tickets.filter (·.guid = g) :=
    filter_modify_of_neg (fun _ ↦ rfl) ht (by simpa [hguid] using hgh.symm)
  have hpending : (c.drop h).pending.filter (·.1 = g) = c.pending.filter (·.1 = g) := by
    rw [drop, List.filter_filter]
    apply List.filter_congr
    intro p _
    by_cases hp : p.1 = g <;> simp [hp, hgh]
  have hrank (m : Nat) : ((c.drop h).settle n o).rank g m = c.rank g m := rank_settle o
  refine only_eq htickets ?_ rfl
  rw [pending_settle, hpending]
  simp only [hrank]
  rfl

theorem map_rank_enroll (hs : c.Sound) (d : τ) (fo : Bool) :
    ((c.pending.filter (·.1 = g)).map fun p ↦ (p.1, (c.enroll h d fo).rank g p.2)) =
      (c.only g).pending := by
  apply List.map_congr_left
  intro p hp
  have hlt := hs.lt ⟨p.1, (List.mem_filter.1 hp).1⟩
  rw [rank_enroll hlt.le]

theorem only_enroll_self (hs : c.Sound) (d : τ) (fo : Bool) :
    (c.enroll g d fo).only g = (c.only g).enroll g d fo := by
  have hpending : (c.enroll g d fo).pending.filter (·.1 = g) =
      c.pending.filter (·.1 = g) ++ [(g, c.tickets.length)] := by
    simp [enroll, List.filter_append]
  have htickets : (c.enroll g d fo).tickets.filter (·.guid = g) =
      c.tickets.filter (·.guid = g) ++ [⟨g, d, fo, .pending⟩] := by
    simp [enroll, List.filter_append]
  refine only_eq htickets ?_ rfl
  rw [hpending, List.map_append, map_rank_enroll hs, List.map_singleton, rank_enroll le_rfl, rank_length]
  rfl

theorem only_enroll_other (hs : c.Sound) (hgh : g ≠ h) (d : τ) (fo : Bool) :
    (c.enroll h d fo).only g = c.only g := by
  have hpending : (c.enroll h d fo).pending.filter (·.1 = g) = c.pending.filter (·.1 = g) := by
    simp [enroll, List.filter_append, hgh.symm]
  have htickets : (c.enroll h d fo).tickets.filter (·.guid = g) = c.tickets.filter (·.guid = g) := by
    simp [enroll, List.filter_append, hgh.symm]
  refine only_eq htickets ?_ rfl
  rw [hpending, map_rank_enroll hs]

theorem register_only [Clock τ] (hs : c.Sound) (now : τ) (timeout : Timeout τ) (fo : Bool) :
    (c.only g).register now g timeout fo =
      (c.register now g timeout fo).map fun p ↦ (c.rank g p.1, p.2.only g) := by
  have hclosed : (c.only g).closed = c.closed := rfl
  simp only [register, hclosed, contains_only]
  split
  · rfl
  · split
    · rfl
    · split
      · rfl
      · next d _ =>
        have henroll := only_enroll_self (g := g) hs d fo
        exact congrArg Except.ok (Prod.ext rank_length.symm henroll.symm)

theorem resolve_only (hs : c.Sound) (r : VerdictResponse) :
    (c.only g).resolve g r = ((c.resolve g r).1, (c.resolve g r).2.only g) := by
  cases hn : c.addressee? g r with
  | none => simp only [resolve, hs.addressee?_only, hn, Option.map_none]
  | some n =>
    simp only [resolve, hs.addressee?_only, hn, Option.map_some,
      only_drop_settle_self hs (hs.mem_of_addressee? hn)]

theorem discard_only (hs : c.Sound) : (c.only g).discard g = (c.discard g).only g := by
  cases hn : c.find? g with
  | none => simp only [discard, find?_only, hn, Option.map_none]
  | some n =>
    simp only [discard, find?_only, hn, Option.map_some,
      only_drop_settle_self hs (hs.find?_eq_some_iff.1 hn)]

theorem only_resolve (hs : c.Sound) (hgh : g ≠ h) (r : VerdictResponse) :
    (c.resolve h r).2.only g = c.only g := by
  cases hn : c.addressee? h r with
  | none => simp only [resolve, hn]
  | some n => simp only [resolve, hn, only_drop_settle_other hs (hs.mem_of_addressee? hn) hgh]

theorem only_discard (hs : c.Sound) (hgh : g ≠ h) : (c.discard h).only g = c.only g := by
  cases hn : c.find? h with
  | none => simp only [discard, hn]
  | some n => simp only [discard, hn, only_drop_settle_other hs (hs.find?_eq_some_iff.1 hn) hgh]

def Event.guid? : Event τ → Option Text
  | .register g _ _ | .resolve g _ | .discard g => some g
  | _ => none

/-- A reply that names a ticket by its place among those of a guid. -/
def Reply.among (g : Text) (c : Correlator τ) : Reply τ → Reply τ
  | .ticket n => .ticket (c.rank g n)
  | r => r

namespace Timed

variable [Clock τ] {s : Timed τ} {e f : Event τ} {es : List (Event τ)}

def only (g : Text) (s : Timed τ) : Timed τ := { s with correlator := s.correlator.only g }

def reply (g : Text) (s : Timed τ) (e : Event τ) : Except Error (Reply τ) :=
  (s.perform e).1.map (Reply.among g s.correlator)

def replies (g : Text) : Timed τ → List (Event τ) → List (Except Error (Reply τ))
  | _, [] => []
  | s, e :: es =>
    if e.guid? = some g then s.reply g e :: replies g (s.perform e).2 es
    else replies g (s.perform e).2 es

/-- An operation on a guid does to what the guid sees what it would do to nothing else. -/
theorem perform_only (hs : s.correlator.Sound) (he : e.guid? = some g) :
    (s.only g).perform e = (s.reply g e, (s.perform e).2.only g) := by
  cases e with
  | register g' timeout fo =>
    obtain rfl := Option.some.inj he
    have hr := register_only (g := g') hs s.now timeout fo
    simp only [perform, reply, only, hr]
    cases s.correlator.register s.now g' timeout fo <;> rfl
  | resolve g' r =>
    obtain rfl := Option.some.inj he
    simp only [perform, reply, only, resolve_only hs]
    rfl
  | discard g' =>
    obtain rfl := Option.some.inj he
    simp only [perform, reply, only, discard_only hs]
    rfl
  | failAll | restart | advance | wait => cases he

/-- An operation on another guid changes nothing that a guid sees. -/
theorem only_perform (hs : s.correlator.Sound) (he : e.guid? = some h) (hgh : g ≠ h) :
    (s.perform e).2.only g = s.only g := by
  cases e with
  | register h' timeout fo =>
    obtain rfl := Option.some.inj he
    simp only [perform]
    split
    · next n c hr =>
      obtain ⟨-, -, -, d, -, rfl⟩ := register_eq_ok_iff.1 hr
      simp only [only, only_enroll_other hs hgh]
    · rfl
  | resolve h' r =>
    obtain rfl := Option.some.inj he
    simp only [perform, only, only_resolve hs hgh]
  | discard h' =>
    obtain rfl := Option.some.inj he
    simp only [perform, only, only_discard hs hgh]
  | failAll | restart | advance | wait => cases he

theorem reply_perform (hs : s.correlator.Sound) (he : e.guid? = some g) (hf : f.guid? = some h)
    (hgh : g ≠ h) : (s.perform f).2.reply g e = s.reply g e := by
  have hs' := (leads_perform hs f).sound hs
  have hone := congrArg Prod.fst (perform_only hs he)
  have htwo := congrArg Prod.fst (perform_only hs' he)
  rw [only_perform hs hf hgh] at htwo
  exact htwo.symm.trans hone

theorem only_perform_comm (hs : s.correlator.Sound) (he : e.guid? = some g) (hf : f.guid? = some h)
    (hgh : g ≠ h) (k : Text) :
    ((s.perform e).2.perform f).2.only k = ((s.perform f).2.perform e).2.only k := by
  have hse := (leads_perform hs e).sound hs
  have hsf := (leads_perform hs f).sound hs
  by_cases hk : k = g
  · subst hk
    have hone := congrArg Prod.snd (perform_only hs he)
    have htwo := congrArg Prod.snd (perform_only hsf he)
    rw [only_perform hs hf hgh] at htwo
    rw [only_perform hse hf hgh]
    exact hone.symm.trans htwo
  · rw [only_perform hsf he hk]
    by_cases hk' : k = h
    · subst hk'
      have hone := congrArg Prod.snd (perform_only hs hf)
      have htwo := congrArg Prod.snd (perform_only hse hf)
      rw [only_perform hs he hk] at htwo
      exact htwo.symm.trans hone
    · rw [only_perform hse hf hk', only_perform hs he hk, only_perform hs hf hk']

/-- What a guid gets in a run of operations only hangs on what it sees at the start, and its own
operations give it the same without the others. -/
theorem run_filter {s' : Timed τ} (hs : s.correlator.Sound) (hs' : s'.correlator.Sound)
    (hsame : s.only g = s'.only g) (hes : ∀ e ∈ es, e.guid?.isSome) :
    s.replies g es = s'.replies g (es.filter (·.guid? = some g)) ∧
      (s.run es).only g = (s'.run (es.filter (·.guid? = some g))).only g := by
  induction es generalizing s s' with
  | nil => exact ⟨rfl, hsame⟩
  | cons e es ih =>
    have hes' : ∀ x ∈ es, x.guid?.isSome := fun x hx ↦ hes x (List.mem_cons_of_mem e hx)
    have hnext := (leads_perform hs e).sound hs
    by_cases he : e.guid? = some g
    · have hstep := perform_only hs he
      rw [hsame, perform_only hs' he] at hstep
      obtain ⟨hreply, hafter⟩ := Prod.mk.inj hstep
      obtain ⟨hreplies, hrun⟩ := ih hnext ((leads_perform hs' e).sound hs') hafter.symm hes'
      rw [List.filter_cons_of_pos (by simpa using he), replies, replies, if_pos he, if_pos he, hreply,
        hreplies]
      exact ⟨rfl, hrun⟩
    · obtain ⟨h, hh⟩ := Option.isSome_iff_exists.1 (hes e List.mem_cons_self)
      have hgh : g ≠ h := by
        rintro rfl
        exact he hh
      rw [List.filter_cons_of_neg (by simpa using he), replies, if_neg he]
      exact ih hnext hs' ((only_perform hs hh hgh).trans hsame) hes'

/-- Operations on different guids commute. Whatever has happened to a correlator, of two operations that
register, resolve or discard, on different guids, each replies the same in either order, and every guid
sees the same afterwards: the same entry on the map, and the same of every ticket handed out for it. In
any run of such operations, every guid gets the replies that its own operations get without the others,
and sees afterwards what they leave. -/
theorem guids_are_independent (past : List (Step τ)) :
    let s : Timed τ := start.moves past
    (∀ (e f : Event τ) (g h : Text), e.guid? = some g → f.guid? = some h → g ≠ h →
      (s.perform f).2.reply g e = s.reply g e ∧ (s.perform e).2.reply h f = s.reply h f ∧
      ∀ k, ((s.perform e).2.perform f).2.only k = ((s.perform f).2.perform e).2.only k) ∧
    ∀ es : List (Event τ), (∀ e ∈ es, e.guid?.isSome) → ∀ g,
      s.replies g es = s.replies g (es.filter (·.guid? = some g)) ∧
      (s.run es).only g = (s.run (es.filter (·.guid? = some g))).only g := by
  intro s
  have hs : s.correlator.Sound := sound_moves past
  refine ⟨?_, ?_⟩
  · intro e f g h he hf hgh
    exact ⟨reply_perform hs he hf hgh, reply_perform hs hf he hgh.symm,
      only_perform_comm hs he hf hgh⟩
  · intro es hes g
    exact run_filter hs hs rfl hes

def Sample.weave : List (Event Int) :=
  [.register "h" (.after 5) false, .resolve "g" clean, .register "g" (.after 1) false, .discard "h",
    .register "h" (.after 2) true, .register "g" (.after 3) false]

theorem guids_are_independent_weave :
    let s : Timed Int := start.moves [.event (.register "g" (.after 10) true)]
    (∀ e ∈ Sample.weave, e.guid?.isSome) ∧ s.replies "g" Sample.weave =
      [.ok (.truth true), .ok (.ticket 1), .error (.state (.alreadyPending "g"))] ∧
    ((s.run Sample.weave).only "g").correlator.tickets =
      [⟨"g", 10, true, .done Sample.clean⟩, ⟨"g", 1, false, .pending⟩] := by
  intro s
  have hweave : ∀ e ∈ Sample.weave, e.guid?.isSome := by decide
  obtain ⟨hreplies, hrun⟩ := (guids_are_independent _).2 Sample.weave hweave "g"
  refine ⟨hweave, hreplies.trans ?_, ?_⟩
  · rfl
  · rw [hrun]
    rfl

end Timed

end VerdictClient.Correlator
