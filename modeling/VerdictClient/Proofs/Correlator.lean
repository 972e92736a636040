import Mathlib.Data.List.Nodup
import VerdictClient.Correlator

namespace VerdictClient

variable {τ : Type}

namespace Future

variable {α : Type}

theorem isPending_iff {o : Future α} : o.isPending = true ↔ o = .pending := by
  cases o <;> simp [isPending]

@[simp]
theorem settle_pending (o : Future α) : settle o .pending = o := rfl

theorem settle_of_ne_pending {o p : Future α} (h : p ≠ .pending) : settle o p = p := by
  cases p with
  | pending => exact absurd rfl h
  | done | failed | cancelled => rfl

theorem settle_settle (o p : Future α) : settle o (settle o p) = settle o p := by
  cases p with
  | pending => cases o <;> rfl
  | done | failed | cancelled => rfl

end Future

namespace Ticket

theorem settle_of_pending {t : Ticket τ} (h : t.outcome = .pending) (o : Future VerdictResponse) :
    t.settle o = { t with outcome := o } := by
  simp only [settle, h, Future.settle_pending]

theorem settle_of_ne_pending {t : Ticket τ} (h : t.outcome ≠ .pending) (o : Future VerdictResponse) :
    t.settle o = t := by
  simp only [settle, Future.settle_of_ne_pending h]

theorem settle_settle (o : Future VerdictResponse) (t : Ticket τ) :
    (t.settle o).settle o = t.settle o := by
  simp only [settle, Future.settle_settle]

end Ticket

namespace Correlator

theorem answer?_eq_none_iff {t : Ticket τ} : answer? t = none ↔ t.outcome = .pending := by
  unfold answer?
  cases t.outcome <;> simp

variable {c : Correlator τ} {g : Text} {n : Nat} {t : Ticket τ}

/-- Every entry of the map names an unsettled ticket of its guid, no guid has two entries, and a
closed correlator has none. -/
structure Sound (c : Correlator τ) : Prop where
  entry : ∀ g n, (g, n) ∈ c.pending → ∃ t, c.ticket? n = some t ∧ t.guid = g ∧ t.outcome = .pending
  keys : (c.pending.map Prod.fst).Nodup
  closed : c.closed.isSome → c.pending = []

def IsWaiting (c : Correlator τ) (n : Nat) : Prop := ∃ g, (g, n) ∈ c.pending

theorem sound_empty : (empty : Correlator τ).Sound :=
  ⟨by simp [empty], by simp [empty], by simp [empty]⟩

theorem Sound.mem (h : c.Sound) (ht : c.ticket? n = some t) (hn : c.IsWaiting n) :
    (t.guid, n) ∈ c.pending ∧ t.outcome = .pending := by
  obtain ⟨g, hg⟩ := hn
  obtain ⟨t', ht', hguid, ho⟩ := h.entry g n hg
  obtain rfl : t' = t := Option.some_inj.1 (ht'.symm.trans ht)
  exact ⟨hguid ▸ hg, ho⟩

theorem Sound.lt (h : c.Sound) (hn : c.IsWaiting n) : n < c.tickets.length := by
  obtain ⟨g, hg⟩ := hn
  obtain ⟨t, ht, -⟩ := h.entry g n hg
  exact (List.getElem?_eq_some_iff.1 ht).1

theorem Sound.unique (h : c.Sound) {m : Nat} (hm : (g, m) ∈ c.pending) (hn : (g, n) ∈ c.pending) :
    m = n :=
  congrArg Prod.snd (List.inj_on_of_nodup_map h.keys hm hn rfl)

theorem Sound.guid_eq (h : c.Sound) (ht : c.ticket? n = some t) (hn : (g, n) ∈ c.pending) :
    t.guid = g := by
  obtain ⟨t', ht', hguid, -⟩ := h.entry g n hn
  rw [← hguid, Option.some_inj.1 (ht'.symm.trans ht)]

theorem lookup_eq_some_iff {ps : List (Text × Nat)} (h : (ps.map Prod.fst).Nodup) :
    ps.lookup g = some n ↔ (g, n) ∈ ps := by
  induction ps with
  | nil => simp
  | cons p ps ih =>
    obtain ⟨k, m⟩ := p
    simp only [List.map_cons, List.nodup_cons] at h
    by_cases hk : g = k
    · subst hk
      have hn : (g, n) ∉ ps := fun hn ↦ h.1 (List.mem_map.2 ⟨_, hn, rfl⟩)
      simp [hn, eq_comm]
    · simp [List.lookup_cons, beq_false_of_ne hk, hk, ih h.2]

theorem Sound.find?_eq_some_iff (h : c.Sound) : c.find? g = some n ↔ (g, n) ∈ c.pending :=
  lookup_eq_some_iff h.keys

theorem contains_eq_false_iff : c.contains g = false ↔ ∀ n, (g, n) ∉ c.pending := by
  simp only [contains, find?, Option.isSome_eq_false_iff, Option.isNone_iff_eq_none,
    List.lookup_eq_none_iff]
  constructor
  · intro h n hn
    simpa using h _ hn
  · rintro h ⟨k, n⟩ hn
    have hk : g ≠ k := fun hk ↦ h n (hk ▸ hn)
    simpa using hk

theorem mem_drop {p : Text × Nat} : p ∈ (c.drop g).pending ↔ p ∈ c.pending ∧ p.1 ≠ g := by
  simp [drop]

theorem mem_forget {p : Text × Nat} : p ∈ (c.forget n).pending ↔ p ∈ c.pending ∧ p.2 ≠ n := by
  simp [forget]

@[simp]
theorem ticket?_drop : (c.drop g).ticket? n = c.ticket? n := rfl

@[simp]
theorem ticket?_forget {m : Nat} : (c.forget m).ticket? n = c.ticket? n := rfl

@[simp]
theorem pending_settle {m : Nat} {o : Future VerdictResponse} : (c.settle m o).pending = c.pending := rfl

@[simp]
theorem length_settle {m : Nat} {o : Future VerdictResponse} :
    (c.settle m o).tickets.length = c.tickets.length :=
  List.length_modify ..

theorem ticket?_settle {m : Nat} {o : Future VerdictResponse} :
    (c.settle m o).ticket? n = (c.ticket? n).map fun t ↦ if m = n then t.settle o else t := by
  simp only [ticket?, settle, List.getElem?_modify, Option.map_eq_map]

theorem ticket?_settle_all (ps : List (Text × Nat)) (o : Future VerdictResponse) (c : Correlator τ) :
    (ps.foldl (fun c p ↦ c.settle p.2 o) c).ticket? n =
      (c.ticket? n).map fun t ↦ if n ∈ ps.map Prod.snd then t.settle o else t := by
  induction ps generalizing c with
  | nil => simp
  | cons p ps ih =>
    simp only [List.foldl_cons, ih, ticket?_settle, Option.map_map, List.map_cons, List.mem_cons]
    congr 1
    funext t
    by_cases hp : n = p.2
    · subst hp
      by_cases hps : p.2 ∈ ps.map Prod.snd <;> simp [hps, Ticket.settle_settle]
    · simp only [hp, Ne.symm hp, false_or, Function.comp_apply, if_false]

theorem length_settle_all (ps : List (Text × Nat)) (o : Future VerdictResponse) (c : Correlator τ) :
    (ps.foldl (fun c p ↦ c.settle p.2 o) c).tickets.length = c.tickets.length := by
  induction ps generalizing c with
  | nil => rfl
  | cons p ps ih => rw [List.foldl_cons, ih, length_settle]

theorem ticket?_failAll {cause : ClosedCause} :
    (c.failAll cause).ticket? n = (c.ticket? n).map fun t ↦
      if n ∈ c.pending.map Prod.snd then t.settle (.failed (.closed cause)) else t :=
  ticket?_settle_all _ _ c

theorem ticket?_restart {m : Nat} {d : τ} :
    (c.restart m d).ticket? n =
      (c.ticket? n).map fun t ↦ if m = n then { t with deadline := d } else t := by
  simp only [ticket?, restart, List.getElem?_modify, Option.map_eq_map]

def enroll (guid : Text) (deadline : τ) (finalOnly : Bool) (c : Correlator τ) : Correlator τ :=
  { c with tickets := c.tickets ++ [⟨guid, deadline, finalOnly, .pending⟩]
           pending := c.pending ++ [(guid, c.tickets.length)] }

theorem register_eq_ok_iff [Clock τ] {now : τ} {timeout : Timeout τ} {fo : Bool} {c' : Correlator τ} :
    c.register now g timeout fo = .ok (n, c') ↔
      c.closed = none ∧ c.contains g = false ∧ n = c.tickets.length ∧
        ∃ d, deadline now timeout = .ok d ∧ c' = c.enroll g d fo := by
  unfold register
  cases hc : c.closed with
  | some cause => simp
  | none =>
    cases hg : c.contains g with
    | true => simp
    | false =>
      cases hd : deadline now timeout with
      | error e => simp
      | ok d => simp [enroll, hc, eq_comm]

theorem deadline_eq_ok_iff [Clock τ] {now : τ} {timeout : Timeout τ} {d : τ} :
    deadline now timeout = .ok d ↔ ∃ span, timeout.span? = some span ∧ d = Clock.add now span := by
  cases timeout <;> simp [deadline, Timeout.span?, eq_comm]

/-- What a step of its callers or of the reader does to a correlator. -/
inductive Act (τ : Type) where
  | enroll (guid : Text) (deadline : τ) (finalOnly : Bool)
  | resolve (guid : Text) (r : VerdictResponse)
  | discard (guid : Text)
  | failAll (cause : ClosedCause)
  | restart (ticket : Nat) (deadline : τ)
  | forget (ticket : Nat)

def after (c : Correlator τ) : Act τ → Correlator τ
  | .enroll guid deadline finalOnly => c.enroll guid deadline finalOnly
  | .resolve guid r => (c.resolve guid r).2
  | .discard guid => c.discard guid
  | .failAll cause => c.failAll cause
  | .restart ticket deadline => c.restart ticket deadline
  | .forget ticket => c.forget ticket

/-- A ticket is only handed out for a guid that is free, and only while nothing is closed. -/
def Act.IsAllowed (c : Correlator τ) : Act τ → Prop
  | enroll guid _ _ => c.closed = none ∧ c.contains guid = false
  | _ => True

def Act.outcome? (t : Ticket τ) : Act τ → Option (Future VerdictResponse)
  | resolve guid r => if guid = t.guid ∧ t.accepts r then some (.done r) else none
  | discard guid => if guid = t.guid then some .cancelled else none
  | failAll cause => some (.failed (.closed cause))
  | _ => none

theorem Sound.addressee? (h : c.Sound) (ht : c.ticket? n = some t) (hn : c.IsWaiting n)
    (r : VerdictResponse) : c.addressee? g r = some n ↔ g = t.guid ∧ t.accepts r = true := by
  have hm := (h.mem ht hn).1
  simp only [Correlator.addressee?, Option.filter_eq_some_iff, h.find?_eq_some_iff, ht,
    Option.any_some]
  exact and_congr_left fun _ ↦ ⟨fun hg ↦ (h.guid_eq ht hg).symm, fun hg ↦ hg ▸ hm⟩

theorem Sound.mem_of_addressee? (h : c.Sound) {m : Nat} {r : VerdictResponse}
    (hm : c.addressee? g r = some m) : (g, m) ∈ c.pending :=
  h.find?_eq_some_iff.1 (Option.filter_eq_some_iff.1 hm).1

theorem after_resolve_of_addressee {m : Nat} {r : VerdictResponse} (hm : c.addressee? g r = some m) :
    c.after (.resolve g r) = (c.drop g).settle m (.done r) := by
  simp only [after, resolve, hm]

theorem after_resolve_of_none {r : VerdictResponse} (hm : c.addressee? g r = none) :
    c.after (.resolve g r) = c := by
  simp only [after, resolve, hm]

theorem after_discard_of_mem (h : c.Sound) {m : Nat} (hm : (g, m) ∈ c.pending) :
    c.after (.discard g) = (c.drop g).settle m .cancelled := by
  simp only [after, discard, h.find?_eq_some_iff.2 hm]

theorem after_discard_of_not_mem (hg : ∀ m, (g, m) ∉ c.pending) : c.after (.discard g) = c := by
  have hf : c.find? g = none := by
    simpa [contains] using contains_eq_false_iff.2 hg
  simp only [after, discard, hf]

def Act.enrolls : Act τ → Bool
  | enroll _ _ _ => true
  | _ => false

theorem length_after (a : Act τ) :
    (c.after a).tickets.length = c.tickets.length + a.enrolls.toNat := by
  cases a with
  | enroll g d fo => simp [after, enroll, Act.enrolls]
  | resolve g r =>
    cases hm : c.addressee? g r with
    | none => simp [after_resolve_of_none hm, Act.enrolls]
    | some m => simp [after_resolve_of_addressee hm, drop, Act.enrolls]
  | discard g =>
    simp only [after, discard]
    cases c.find? g with
    | none => rfl
    | some m => exact length_settle (c := c.drop g)
  | failAll cause => simp [after, failAll, length_settle_all, Act.enrolls]
  | restart m d => simp [after, restart, Act.enrolls]
  | forget m => rfl

theorem Act.outcome?_ne_pending {a : Act τ} : a.outcome? t ≠ some .pending := by
  cases a <;> simp only [Act.outcome?] <;> (try split) <;> simp

theorem Act.eq_failAll {a : Act τ} {e : Error} (h : a.outcome? t = some (.failed e)) :
    ∃ cause, a = .failAll cause := by
  cases a with
  | failAll cause => exact ⟨cause, rfl⟩
  | _ => simp [Act.outcome?] at h

theorem Act.eq_discard {a : Act τ} (h : a.outcome? t = some .cancelled) : a = .discard t.guid := by
  cases a with
  | discard g =>
    simp only [Act.outcome?] at h
    split at h
    · next hg => rw [hg]
    · cases h
  | _ => simp [Act.outcome?] at h

def Act.deadline (n : Nat) (d : τ) : Act τ → τ
  | restart m d' => if m = n then d' else d
  | _ => d

theorem Sound.isWaiting_drop_settle (h : c.Sound) {m : Nat} (hm : (g, m) ∈ c.pending)
    (o : Future VerdictResponse) :
    ((c.drop g).settle m o).IsWaiting n ↔ c.IsWaiting n ∧ n ≠ m := by
  constructor
  · rintro ⟨g', hg'⟩
    obtain ⟨hn, hne⟩ := mem_drop.1 hg'
    refine ⟨⟨g', hn⟩, ?_⟩
    rintro rfl
    obtain ⟨t, ht, rfl, -⟩ := h.entry g n hm
    exact hne (h.guid_eq ht hn).symm
  · rintro ⟨⟨g', hg'⟩, hnm⟩
    refine ⟨g', mem_drop.2 ⟨hg', ?_⟩⟩
    rintro rfl
    exact hnm (h.unique hg' hm)

theorem ticket?_drop_settle (ht : c.ticket? n = some t) {m : Nat} (hnm : n ≠ m)
    (o : Future VerdictResponse) : ((c.drop g).settle m o).ticket? n = some t := by
  simp [ticket?_settle, ht, hnm.symm]

theorem ticket?_drop_settle_self (ht : c.ticket? n = some t) (ho : t.outcome = .pending)
    (o : Future VerdictResponse) :
    ((c.drop g).settle n o).ticket? n = some { t with outcome := o } := by
  simp [ticket?_settle, ht, Ticket.settle_of_pending ho]

/-- What an act does to a ticket on the map: it settles it and takes it off, or forgets it, or
leaves it where it is. -/
theorem Sound.after_of_waiting (h : c.Sound) (ht : c.ticket? n = some t) (hn : c.IsWaiting n)
    (a : Act τ) :
    (∃ o, a.outcome? t = some o ∧ ¬(c.after a).IsWaiting n ∧
      (c.after a).ticket? n = some { t with outcome := o }) ∨
    (a = .forget n ∧ ¬(c.after a).IsWaiting n ∧ (c.after a).ticket? n = some t) ∨
    (a.outcome? t = none ∧ (c.after a).IsWaiting n ∧
      (c.after a).ticket? n = some { t with deadline := a.deadline n t.deadline }) := by
  obtain ⟨hm, ho⟩ := h.mem ht hn
  cases a with
  | enroll g d fo =>
    refine .inr (.inr ⟨rfl, ⟨t.guid, List.mem_append_left _ hm⟩, ?_⟩)
    exact (List.getElem?_append_left (h.lt hn)).trans ht
  | resolve g r =>
    by_cases hg : g = t.guid ∧ t.accepts r = true
    · have hr := (h.addressee? ht hn r).2 hg
      refine .inl ⟨.done r, if_pos hg, ?_⟩
      rw [after_resolve_of_addressee hr, h.isWaiting_drop_settle (hg.1 ▸ hm)]
      exact ⟨fun hw ↦ hw.2 rfl, ticket?_drop_settle_self ht ho _⟩
    · refine .inr (.inr ⟨if_neg hg, ?_⟩)
      cases hr : c.addressee? g r with
      | none =>
        rw [after_resolve_of_none hr]
        exact ⟨hn, ht⟩
      | some m =>
        have hnm : n ≠ m := by
          rintro rfl
          exact hg ((h.addressee? ht hn r).1 hr)
        rw [after_resolve_of_addressee hr, h.isWaiting_drop_settle (h.mem_of_addressee? hr)]
        exact ⟨⟨hn, hnm⟩, ticket?_drop_settle ht hnm _⟩
  | discard g =>
    by_cases hg : g = t.guid
    · subst hg
      refine .inl ⟨.cancelled, if_pos rfl, ?_⟩
      rw [after_discard_of_mem h hm, h.isWaiting_drop_settle hm]
      exact ⟨fun hw ↦ hw.2 rfl, ticket?_drop_settle_self ht ho _⟩
    · refine .inr (.inr ⟨if_neg hg, ?_⟩)
      by_cases hc : ∃ m, (g, m) ∈ c.pending
      · obtain ⟨m, hgm⟩ := hc
        have hnm : n ≠ m := by
          rintro rfl
          exact hg (h.guid_eq ht hgm).symm
        rw [after_discard_of_mem h hgm, h.isWaiting_drop_settle hgm]
        exact ⟨⟨hn, hnm⟩, ticket?_drop_settle ht hnm _⟩
      · rw [after_discard_of_not_mem (not_exists.1 hc)]
        exact ⟨hn, ht⟩
  | failAll cause =>
    refine .inl ⟨_, rfl, by simp [IsWaiting, after, failAll], ?_⟩
    have hs : n ∈ c.pending.map Prod.snd := List.mem_map.2 ⟨_, hm, rfl⟩
    simp [after, ticket?_failAll, ht, hs, Ticket.settle_of_pending ho]
  | restart m d =>
    refine .inr (.inr ⟨rfl, hn, ?_⟩)
    by_cases hmn : m = n <;> simp [after, ticket?_restart, ht, hmn, Act.deadline]
  | forget m =>
    by_cases hmn : m = n
    · subst hmn
      refine .inr (.inl ⟨rfl, ?_, ht⟩)
      rintro ⟨g, hg⟩
      exact (mem_forget.1 hg).2 rfl
    · exact .inr (.inr ⟨rfl, ⟨t.guid, mem_forget.2 ⟨hm, fun h' ↦ hmn h'.symm⟩⟩, ht⟩)

theorem Sound.after_of_not_waiting (h : c.Sound) (ht : c.ticket? n = some t) (hn : ¬c.IsWaiting n)
    (a : Act τ) :
    ¬(c.after a).IsWaiting n ∧
      (c.after a).ticket? n = some { t with deadline := a.deadline n t.deadline } := by
  have hlt := (List.getElem?_eq_some_iff.1 ht).1
  have hother {g : Text} {m : Nat} (hgm : (g, m) ∈ c.pending) : n ≠ m := by
    rintro rfl
    exact hn ⟨g, hgm⟩
  cases a with
  | enroll g d fo =>
    refine ⟨?_, (List.getElem?_append_left hlt).trans ht⟩
    rintro ⟨g', hg'⟩
    rcases List.mem_append.1 hg' with hg' | hg'
    · exact hn ⟨g', hg'⟩
    · exact absurd (congrArg Prod.snd (List.mem_singleton.1 hg')) (Nat.ne_of_lt hlt)
  | resolve g r =>
    cases hr : c.addressee? g r with
    | none =>
      rw [after_resolve_of_none hr]
      exact ⟨hn, ht⟩
    | some m =>
      have hgm := h.mem_of_addressee? hr
      rw [after_resolve_of_addressee hr, h.isWaiting_drop_settle hgm]
      exact ⟨fun hw ↦ hn hw.1, ticket?_drop_settle ht (hother hgm) _⟩
  | discard g =>
    by_cases hc : ∃ m, (g, m) ∈ c.pending
    · obtain ⟨m, hgm⟩ := hc
      rw [after_discard_of_mem h hgm, h.isWaiting_drop_settle hgm]
      exact ⟨fun hw ↦ hn hw.1, ticket?_drop_settle ht (hother hgm) _⟩
    · rw [after_discard_of_not_mem (not_exists.1 hc)]
      exact ⟨hn, ht⟩
  | failAll cause =>
    refine ⟨by simp [IsWaiting, after, failAll], ?_⟩
    have hs : n ∉ c.pending.map Prod.snd := by
      intro hs
      obtain ⟨⟨g, m⟩, hm, rfl⟩ := List.mem_map.1 hs
      exact hn ⟨g, hm⟩
    simp [after, ticket?_failAll, ht, hs, Act.deadline]
  | restart m d =>
    refine ⟨hn, ?_⟩
    by_cases hmn : m = n <;> simp [after, ticket?_restart, ht, hmn, Act.deadline]
  | forget m =>
    refine ⟨?_, ht⟩
    rintro ⟨g, hg⟩
    exact hn ⟨g, (mem_forget.1 hg).1⟩

theorem ticket?_of_after {a : Act τ} (ht : (c.after a).ticket? n = some t) :
    (∃ t, c.ticket? n = some t) ∨ t.outcome = .pending := by
  by_cases hn : n < c.tickets.length
  · exact .inl ⟨_, List.getElem?_eq_getElem hn⟩
  · have hlt := (List.getElem?_eq_some_iff.1 ht).1
    rw [length_after] at hlt
    cases a with
    | enroll g d fo =>
      obtain rfl : n = c.tickets.length := by
        simp only [Act.enrolls, Bool.toNat_true] at hlt
        omega
      obtain rfl : (⟨g, d, fo, .pending⟩ : Ticket τ) = t :=
        Option.some_inj.1 (List.getElem?_concat_length.symm.trans ht)
      exact .inr rfl
    | _ => exact absurd hlt hn

theorem mem_pending_after {a : Act τ} (hn : (g, n) ∈ (c.after a).pending) :
    (g, n) ∈ c.pending ∨ n = c.tickets.length ∧ ∃ d fo, a = .enroll g d fo := by
  cases a with
  | enroll g' d fo =>
    rcases List.mem_append.1 hn with hn | hn
    · exact .inl hn
    · obtain ⟨rfl, rfl⟩ := Prod.mk.inj (List.mem_singleton.1 hn)
      exact .inr ⟨rfl, d, fo, rfl⟩
  | resolve g' r =>
    left
    cases hr : c.addressee? g' r with
    | none => rwa [after_resolve_of_none hr] at hn
    | some m =>
      rw [after_resolve_of_addressee hr] at hn
      exact (mem_drop.1 hn).1
  | discard g' =>
    left
    simp only [after, discard] at hn
    cases hf : c.find? g' with
    | none => simpa only [hf] using hn
    | some m =>
      simp only [hf, pending_settle] at hn
      exact (mem_drop.1 hn).1
  | failAll cause => simp [after, failAll] at hn
  | restart m d => exact .inl hn
  | forget m => exact .inl (mem_forget.1 hn).1

def Act.closes? : Act τ → Option ClosedCause
  | failAll cause => some cause
  | _ => none

theorem closed_after (a : Act τ) : (c.after a).closed = c.closed.or a.closes? := by
  cases a with
  | failAll cause => rfl
  | resolve g r =>
    simp only [Act.closes?, Option.or_none]
    cases hr : c.addressee? g r with
    | none => rw [after_resolve_of_none hr]
    | some m => rw [after_resolve_of_addressee hr]; rfl
  | discard g =>
    simp only [Act.closes?, Option.or_none]
    simp only [after, discard]
    cases c.find? g <;> rfl
  | enroll | restart | forget => exact Option.or_none.symm

theorem keys_after {a : Act τ} (h : (c.pending.map Prod.fst).Nodup) (ha : a.IsAllowed c) :
    ((c.after a).pending.map Prod.fst).Nodup := by
  have hfilter (p : Text × Nat → Bool) : ((c.pending.filter p).map Prod.fst).Nodup :=
    h.sublist (List.filter_sublist.map _)
  cases a with
  | enroll g d fo =>
    have hg := contains_eq_false_iff.1 ha.2
    simp only [after, enroll, List.map_append, List.map_cons, List.map_nil]
    refine List.nodup_append.2 ⟨h, List.nodup_singleton _, ?_⟩
    rintro _ hk _ hk' rfl
    obtain ⟨⟨k, m⟩, hm, rfl⟩ := List.mem_map.1 hk
    exact hg m (List.mem_singleton.1 hk' ▸ hm)
  | resolve g r =>
    cases hr : c.addressee? g r with
    | none => rwa [after_resolve_of_none hr]
    | some m => rw [after_resolve_of_addressee hr]; exact hfilter _
  | discard g =>
    simp only [after, discard]
    cases c.find? g with
    | none => exact h
    | some m => exact hfilter _
  | failAll cause => simp [after, failAll]
  | restart m d => exact h
  | forget m => exact hfilter _

theorem Sound.after (h : c.Sound) {a : Act τ} (ha : a.IsAllowed c) : (c.after a).Sound := by
  refine ⟨fun g n hn ↦ ?_, keys_after h.keys ha, fun hc ↦ ?_⟩
  · rcases mem_pending_after hn with hm | ⟨rfl, d, fo, rfl⟩
    · obtain ⟨t, ht, rfl, ho⟩ := h.entry g n hm
      obtain ⟨o, -, hoff, -⟩ | ⟨-, hoff, -⟩ | ⟨-, -, ht'⟩ := h.after_of_waiting ht ⟨_, hm⟩ a
      · exact absurd ⟨_, hn⟩ hoff
      · exact absurd ⟨_, hn⟩ hoff
      · exact ⟨_, ht', rfl, ho⟩
    · exact ⟨⟨g, d, fo, .pending⟩, List.getElem?_concat_length, rfl, rfl⟩
  · -- An act that does not close leaves the empty map of a closed correlator empty.
    cases a with
    | failAll cause => rfl
    | enroll g d fo => exact absurd hc (by simp [closed_after, ha.1, Act.closes?])
    | resolve | discard | restart | forget =>
      simp only [closed_after, Act.closes?, Option.or_none] at hc
      refine List.eq_nil_iff_forall_not_mem.2 fun p hp ↦ ?_
      obtain hm | ⟨-, d, fo, he⟩ := mem_pending_after hp
      · simp [h.closed hc] at hm
      · cases he

end Correlator

end VerdictClient
