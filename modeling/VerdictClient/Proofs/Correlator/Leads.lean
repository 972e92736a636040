import VerdictClient.Proofs.Correlator

namespace VerdictClient.Correlator

variable {τ : Type} {c c' c'' : Correlator τ} {n : Nat} {t u : Ticket τ} {a : Act τ} {as : List (Act τ)}
variable {d d' : Nat → Ticket τ → Option (Future VerdictResponse)}

/-- What an act decides about ticket `n` as long as it is on the map: the outcome that it gets, or, when
it is forgotten, that it gets none. -/
def Act.decides? (n : Nat) (t : Ticket τ) : Act τ → Option (Future VerdictResponse)
  | forget m => if m = n then some .pending else none
  | a => a.outcome? t

theorem Act.decides?_congr (hg : t.guid = u.guid) (hf : t.finalOnly = u.finalOnly) (n : Nat)
    (a : Act τ) : a.decides? n t = a.decides? n u := by
  obtain ⟨g, x, fo, o⟩ := t
  obtain ⟨g', x', fo', o'⟩ := u
  obtain rfl : g = g' := hg
  obtain rfl : fo = fo' := hf
  cases a <;> rfl

theorem forget_of_not_waiting (hn : ¬c.IsWaiting n) : c.forget n = c := by
  have hall : c.pending.filter (·.2 ≠ n) = c.pending := by
    refine List.filter_eq_self.2 fun p hp ↦ ?_
    have hne : p.2 ≠ n := fun h ↦ hn ⟨p.1, h ▸ hp⟩
    simpa using hne
  simp only [forget, hall]

theorem Sound.mem_pending_iff (h : c.Sound) (ht : c.ticket? n = some t) :
    (t.guid, n) ∈ c.pending ↔ c.IsWaiting n :=
  ⟨fun hm ↦ ⟨_, hm⟩, fun hn ↦ (h.mem ht hn).1⟩

theorem Sound.after_decides (h : c.Sound) (ht : c.ticket? n = some t) (hn : c.IsWaiting n) (a : Act τ) :
    (∃ x, (c.after a).ticket? n =
      some { t with deadline := x, outcome := (a.decides? n t).getD .pending }) ∧
    ((c.after a).IsWaiting n ↔ a.decides? n t = none) := by
  have ho : t.outcome = .pending := (h.mem ht hn).2
  obtain ⟨o, hout, hoff, ht'⟩ | ⟨rfl, hoff, ht'⟩ | ⟨hout, hon, ht'⟩ := h.after_of_waiting ht hn a
  · have hd : a.decides? n t = some o := by
      cases a with
      | forget m => simp [Act.outcome?] at hout
      | _ => exact hout
    exact ⟨⟨_, by rw [ht', hd]; rfl⟩, by simp [hoff, hd]⟩
  · have hd : (Act.forget n : Act τ).decides? n t = some .pending := if_pos rfl
    refine ⟨⟨t.deadline, ?_⟩, by simp [hoff, hd]⟩
    rw [ht', hd, Option.getD_some, ← ho]
  · have hd : a.decides? n t = none := by
      cases a with
      | forget m =>
        refine if_neg ?_
        rintro rfl
        obtain ⟨g, hg⟩ := hon
        exact (mem_forget.1 hg).2 rfl
      | _ => exact hout
    refine ⟨⟨a.deadline n t.deadline, ?_⟩, by simp [hon, hd]⟩
    rw [ht', hd, Option.getD_none, ← ho]

def afterAll (c : Correlator τ) (as : List (Act τ)) : Correlator τ := as.foldl after c

def Allows (c : Correlator τ) : List (Act τ) → Prop
  | [] => True
  | a :: as => a.IsAllowed c ∧ (c.after a).Allows as

theorem afterAll_append (c : Correlator τ) (as bs : List (Act τ)) :
    c.afterAll (as ++ bs) = (c.afterAll as).afterAll bs :=
  List.foldl_append

theorem allows_append {bs : List (Act τ)} :
    c.Allows (as ++ bs) ↔ c.Allows as ∧ (c.afterAll as).Allows bs := by
  induction as generalizing c with
  | nil => simp [Allows, afterAll]
  | cons a as ih => simp only [List.cons_append, Allows, ih, and_assoc, afterAll, List.foldl_cons]

theorem Sound.afterAll (h : c.Sound) (ha : c.Allows as) : (c.afterAll as).Sound := by
  induction as generalizing c with
  | nil => exact h
  | cons a as ih => exact ih (h.after ha.1) ha.2

theorem Sound.afterAll_of_not_waiting (h : c.Sound) (ha : c.Allows as) (ht : c.ticket? n = some t)
    (hn : ¬c.IsWaiting n) :
    ¬(c.afterAll as).IsWaiting n ∧ ∃ x, (c.afterAll as).ticket? n = some { t with deadline := x } := by
  induction as generalizing c t with
  | nil => exact ⟨hn, t.deadline, ht⟩
  | cons a as ih =>
    obtain ⟨hoff, ht'⟩ := h.after_of_not_waiting ht hn a
    obtain ⟨hoff', x, hx⟩ := ih (h.after ha.1) ha.2 ht' hoff
    exact ⟨hoff', x, hx⟩

/-- The first act that decides a ticket gives it its outcome. -/
theorem Sound.afterAll_of_waiting (h : c.Sound) (ha : c.Allows as) (ht : c.ticket? n = some t)
    (hn : c.IsWaiting n) :
    (∃ x, (c.afterAll as).ticket? n = some
      { t with deadline := x, outcome := (as.findSome? (·.decides? n t)).getD .pending }) ∧
    ((c.afterAll as).IsWaiting n ↔ as.findSome? (·.decides? n t) = none) := by
  induction as generalizing c t with
  | nil =>
    have ho : t.outcome = .pending := (h.mem ht hn).2
    refine ⟨⟨t.deadline, ?_⟩, by simpa [Correlator.afterAll] using hn⟩
    rw [List.findSome?_nil, Option.getD_none, ← ho]
    exact ht
  | cons a as ih =>
    obtain ⟨⟨x, ht'⟩, hiff⟩ := h.after_decides ht hn a
    have hs := h.after ha.1
    rw [List.findSome?_cons]
    cases hd : a.decides? n t with
    | some o =>
      rw [hd] at ht' hiff
      have hoff : ¬(c.after a).IsWaiting n := fun hw ↦ by cases hiff.1 hw
      obtain ⟨hoff', y, hy⟩ := hs.afterAll_of_not_waiting ha.2 ht' hoff
      have hend : ¬(c.afterAll (a :: as)).IsWaiting n := hoff'
      exact ⟨⟨y, hy⟩, by simp [hend]⟩
    | none =>
      rw [hd] at ht' hiff
      have hsame (b : Act τ) : b.decides? n { t with deadline := x, outcome := .pending } =
          b.decides? n t :=
        Act.decides?_congr rfl rfl n b
      have hnext := ih hs ha.2 ht' (hiff.2 rfl)
      simp only [Option.getD_none, hsame] at hnext
      exact hnext

/-- Acts lead from one correlator to another, and `d` is what they decide about each ticket. -/
def Leads (c c' : Correlator τ) (d : Nat → Ticket τ → Option (Future VerdictResponse)) : Prop :=
  ∃ as : List (Act τ), c.Allows as ∧ c' = c.afterAll as ∧
    ∀ n t, as.findSome? (·.decides? n t) = d n t

theorem Leads.refl (c : Correlator τ) : Leads c c fun _ _ ↦ none :=
  ⟨[], trivial, rfl, fun _ _ ↦ rfl⟩

theorem Leads.congr (h : Leads c c' d) (hd : ∀ n t, d n t = d' n t) : Leads c c' d' := by
  obtain ⟨as, ha, hc, has⟩ := h
  exact ⟨as, ha, hc, fun n t ↦ (has n t).trans (hd n t)⟩

theorem Leads.act (ha : a.IsAllowed c) : Leads c (c.after a) fun n t ↦ a.decides? n t := by
  refine ⟨[a], ⟨ha, trivial⟩, rfl, fun n t ↦ ?_⟩
  simp only [List.findSome?_cons, List.findSome?_nil]
  cases a.decides? n t <;> rfl

theorem Leads.trans (h : Leads c c' d) (h' : Leads c' c'' d') :
    Leads c c'' fun n t ↦ (d n t).or (d' n t) := by
  obtain ⟨as, ha, rfl, hd⟩ := h
  obtain ⟨bs, hb, rfl, hd'⟩ := h'
  refine ⟨as ++ bs, allows_append.2 ⟨ha, hb⟩, (c.afterAll_append as bs).symm, fun n t ↦ ?_⟩
  rw [List.findSome?_append, hd, hd']

theorem Leads.sound (h : Leads c c' d) (hs : c.Sound) : c'.Sound := by
  obtain ⟨as, ha, rfl, -⟩ := h
  exact hs.afterAll ha

theorem Leads.of_waiting (h : Leads c c' d) (hs : c.Sound) (ht : c.ticket? n = some t)
    (hn : c.IsWaiting n) :
    (∃ x, c'.ticket? n = some { t with deadline := x, outcome := (d n t).getD .pending }) ∧
      (c'.IsWaiting n ↔ d n t = none) := by
  obtain ⟨as, ha, rfl, hd⟩ := h
  rw [← hd]
  exact hs.afterAll_of_waiting ha ht hn

theorem Leads.of_not_waiting (h : Leads c c' d) (hs : c.Sound) (ht : c.ticket? n = some t)
    (hn : ¬c.IsWaiting n) :
    ¬c'.IsWaiting n ∧ ∃ x, c'.ticket? n = some { t with deadline := x } := by
  obtain ⟨as, ha, rfl, -⟩ := h
  exact hs.afterAll_of_not_waiting ha ht hn

theorem Leads.ticket (h : Leads c c' d) (hs : c.Sound) (ht : c.ticket? n = some t) :
    ∃ u, c'.ticket? n = some u ∧ u.guid = t.guid ∧ u.finalOnly = t.finalOnly := by
  by_cases hn : c.IsWaiting n
  · obtain ⟨⟨x, hx⟩, -⟩ := h.of_waiting hs ht hn
    exact ⟨_, hx, rfl, rfl⟩
  · obtain ⟨-, x, hx⟩ := h.of_not_waiting hs ht hn
    exact ⟨_, hx, rfl, rfl⟩

theorem Leads.same (h : Leads c c' d) (hs : c.Sound) (ht : c.ticket? n = some t)
    (hu : c'.ticket? n = some u) : u.guid = t.guid ∧ u.finalOnly = t.finalOnly := by
  obtain ⟨v, hv, hsame⟩ := h.ticket hs ht
  obtain rfl := Option.some_inj.1 (hv.symm.trans hu)
  exact hsame

section

variable {σ ε α : Type} {f : σ → ε → σ} {decide? : σ → ε → Option α} {s : σ} {es : List ε} {x : α}

/-- What the first event of a run decides that decides anything in the state to which it comes. -/
def firstDecision (f : σ → ε → σ) (decide? : σ → ε → Option α) : σ → List ε → Option α
  | _, [] => none
  | s, e :: es => (decide? s e).or (firstDecision f decide? (f s e) es)

theorem exists_of_firstDecision (h : firstDecision f decide? s es = some x) :
    ∃ before e after, es = before ++ e :: after ∧ decide? (before.foldl f s) e = some x ∧
      firstDecision f decide? s before = none := by
  induction es generalizing s with
  | nil => cases h
  | cons e es ih =>
    rw [firstDecision] at h
    cases he : decide? s e with
    | some y =>
      rw [he, Option.some_or] at h
      exact ⟨[], e, es, rfl, he.trans h, rfl⟩
    | none =>
      rw [he, Option.none_or] at h
      obtain ⟨before, e', after, rfl, he', hbefore⟩ := ih h
      exact ⟨e :: before, e', after, rfl, he', by rw [firstDecision, he, hbefore, Option.none_or]⟩

end

theorem Leads.foldl {σ ε : Type} (view : σ → Correlator τ) {f : σ → ε → σ}
    {d : σ → ε → Nat → Ticket τ → Option (Future VerdictResponse)}
    (hstep : ∀ s e, (view s).Sound → Leads (view s) (view (f s e)) (d s e)) {s : σ}
    (hs : (view s).Sound) (es : List ε) :
    Leads (view s) (view (es.foldl f s)) fun n t ↦ firstDecision f (fun s e ↦ d s e n t) s es := by
  induction es generalizing s with
  | nil => exact .refl _
  | cons e es ih =>
    have hlead := hstep s e hs
    exact hlead.trans (ih (hlead.sound hs))

end VerdictClient.Correlator
