import VerdictClient.CommandLine.Pool

namespace VerdictClient.CommandLine.Pool

variable {α : Type} {p : Pool α} {e : Event α} {i j n : Nat} {r x : α} {es : List (Event α)}

theorem isBusy_iff : p.isBusy i = true ↔ i < p.begun ∧ p.outcomes[i]? = some none := by
  unfold isBusy
  cases h : p.outcomes[i]? with
  | none => simp
  | some o => cases o <;> simp

theorem mem_busy : i ∈ p.busy ↔ p.isBusy i = true := by
  unfold busy
  rw [List.mem_filter, List.mem_range]
  exact ⟨And.right, fun h ↦ ⟨(isBusy_iff.1 h).1, h⟩⟩

theorem next?_eq_some_iff : p.next? = some i ↔
    i = p.begun ∧ p.begun < p.outcomes.length ∧ p.busy.length < workers := by
  unfold next?
  split
  · next h =>
    rw [Bool.and_eq_true, decide_eq_true_eq, decide_eq_true_eq] at h
    simp only [Option.some_inj, h, and_self, and_true, eq_comm]
  · next h =>
    rw [Bool.and_eq_true, decide_eq_true_eq, decide_eq_true_eq] at h
    simp only [reduceCtorEq, h, and_false]

theorem step_begun (h : p.next? = some i) : p.step .begun = { p with begun := p.begun + 1 } := by
  simp only [step, h, Option.isSome_some, if_true]

theorem step_begun_of_none (h : p.next? = none) : p.step .begun = p := by
  simp only [step, h, Option.isSome_none, Bool.false_eq_true, if_false]

theorem step_finished (h : p.isBusy i = true) (r : α) :
    p.step (.finished i r) = { p with outcomes := p.outcomes.set i (some r) } :=
  if_pos h

theorem step_finished_of_not_busy (h : p.isBusy i = false) (r : α) : p.step (.finished i r) = p := by
  simp only [step, h, Bool.false_eq_true, if_false]

theorem step_cases (p : Pool α) (e : Event α) :
    (p.next? = some p.begun ∧ e = .begun ∧ p.step e = { p with begun := p.begun + 1 }) ∨
    (∃ i r, p.isBusy i = true ∧ e = .finished i r ∧
      p.step e = { p with outcomes := p.outcomes.set i (some r) }) ∨
    p.step e = p := by
  cases e with
  | begun =>
    cases h : p.next? with
    | none => exact .inr (.inr (step_begun_of_none h))
    | some i =>
      obtain ⟨rfl, -⟩ := next?_eq_some_iff.1 h
      exact .inl ⟨rfl, rfl, step_begun h⟩
  | finished i r =>
    cases h : p.isBusy i with
    | false => exact .inr (.inr (step_finished_of_not_busy h r))
    | true => exact .inr (.inl ⟨i, r, h, rfl, step_finished h r⟩)

theorem length_step (p : Pool α) (e : Event α) : (p.step e).outcomes.length = p.outcomes.length := by
  obtain ⟨-, -, h⟩ | ⟨i, r, -, -, h⟩ | h := p.step_cases e <;> rw [h]
  exact List.length_set

theorem begun_step_finished (p : Pool α) (i : Nat) (r : α) :
    (p.step (.finished i r)).begun = p.begun := by
  simp only [step]
  split <;> rfl

theorem isBusy_step_finished : (p.step (.finished j r)).isBusy i = true ↔
    p.isBusy i = true ∧ i ≠ j := by
  cases hj : p.isBusy j with
  | false =>
    rw [step_finished_of_not_busy hj]
    refine ⟨fun hi ↦ ⟨hi, ?_⟩, And.left⟩
    rintro rfl
    cases hj.symm.trans hi
  | true =>
    rw [step_finished hj, isBusy_iff, isBusy_iff]
    by_cases hij : j = i
    · subst hij
      have hlt := (List.getElem?_eq_some_iff.1 (isBusy_iff.1 hj).2).1
      simp [List.getElem?_set_self hlt]
    · simp [List.getElem?_set_ne hij, Ne.symm hij]

theorem isBusy_run_finished (hes : ∀ e ∈ es, ∃ j r, e = .finished j r)
    (hi : (p.run es).isBusy i = true) : p.isBusy i = true ∧ ∀ r, .finished i r ∉ es := by
  induction es generalizing p with
  | nil => exact ⟨hi, fun _ h ↦ by cases h⟩
  | cons e es ih =>
    obtain ⟨j, q, rfl⟩ := hes e List.mem_cons_self
    obtain ⟨hb, hn⟩ := ih (fun e' he' ↦ hes e' (List.mem_cons_of_mem _ he')) hi
    obtain ⟨hb, hij⟩ := isBusy_step_finished.1 hb
    refine ⟨hb, fun r hr ↦ ?_⟩
    obtain he | hr := List.mem_cons.1 hr
    · exact hij (Event.finished.inj he).1
    · exact hn r hr

theorem begun_run_finished (hes : ∀ e ∈ es, ∃ j r, e = .finished j r) :
    (p.run es).begun = p.begun := by
  induction es generalizing p with
  | nil => rfl
  | cons e es ih =>
    obtain ⟨j, q, rfl⟩ := hes e List.mem_cons_self
    have hrest := ih (p := p.step (.finished j q)) fun e' he' ↦ hes e' (List.mem_cons_of_mem _ he')
    exact hrest.trans (p.begun_step_finished j q)

/-- What is known of a subject is what `P` says of it, and only those that were begun with are known. -/
structure Notes (P : Nat → α → Prop) (p : Pool α) : Prop where
  begun_le : p.begun ≤ p.outcomes.length
  unknown : ∀ {i}, p.begun ≤ i → i < p.outcomes.length → p.outcomes[i]? = some none
  known : ∀ {i x}, p.outcomes[i]? = some (some x) → P i x

variable {P Q : Nat → α → Prop}

theorem notes_start (P : Nat → α → Prop) (n : Nat) : Notes P (start n : Pool α) where
  begun_le := Nat.zero_le _
  unknown := by
    intro i _ hi
    have hn : i < n := by simpa [start] using hi
    simp [start, hn]
  known := by
    intro i x h
    have hmem := List.mem_of_getElem? h
    cases (List.mem_replicate.1 hmem).2

theorem Notes.mono (h : Notes P p) (hPQ : ∀ i x, P i x → Q i x) : Notes Q p :=
  ⟨h.begun_le, h.unknown, fun hx ↦ hPQ _ _ (h.known hx)⟩

theorem Notes.step (h : Notes P p) (he : ∀ i r, e = .finished i r → p.isBusy i = true → P i r) :
    Notes P (p.step e) := by
  obtain ⟨hn, -, hs⟩ | ⟨i, r, hb, rfl, hs⟩ | hs := p.step_cases e <;> rw [hs]
  · obtain ⟨-, hlt, -⟩ := next?_eq_some_iff.1 hn
    exact ⟨hlt, fun hi ↦ h.unknown (Nat.le_of_succ_le hi), h.known⟩
  · obtain ⟨hi, -⟩ := isBusy_iff.1 hb
    refine ⟨by rw [List.length_set]; exact h.begun_le, fun {k} hk hlen ↦ ?_, fun {k x} hx ↦ ?_⟩
    · rw [List.length_set] at hlen
      rw [List.getElem?_set_ne (Nat.ne_of_lt (Nat.lt_of_lt_of_le hi hk))]
      exact h.unknown hk hlen
    · by_cases hik : i = k
      · subst hik
        rw [List.getElem?_set_self (Nat.lt_of_lt_of_le hi h.begun_le)] at hx
        obtain rfl := Option.some_inj.1 (Option.some_inj.1 hx)
        exact he i r rfl hb
      · rw [List.getElem?_set_ne hik] at hx
        exact h.known hx
  · exact h

theorem Notes.run (h : Notes P p) (hes : ∀ i r, .finished i r ∈ es → P i r) : Notes P (p.run es) := by
  induction es generalizing p with
  | nil => exact h
  | cons e es ih =>
    refine ih (h.step fun i r he _ ↦ ?_) fun i r hr ↦ hes i r (List.mem_cons_of_mem e hr)
    exact hes i r (he ▸ List.mem_cons_self)

theorem length_run (p : Pool α) (es : List (Event α)) :
    (p.run es).outcomes.length = p.outcomes.length := by
  induction es generalizing p with
  | nil => rfl
  | cons e es ih => exact (ih (p.step e)).trans (p.length_step e)

def IsOver (p : Pool α) : Prop := p.next? = none ∧ p.busy = []

/-- If nothing is worked on, there are workers to begin with what is left. -/
theorem begun_of_isOver (h : p.IsOver) : p.outcomes.length ≤ p.begun := by
  obtain ⟨hnext, hbusy⟩ := h
  refine Nat.le_of_not_lt fun hlt ↦ ?_
  have hidle : p.busy.length < workers := by
    rw [hbusy]
    decide
  have hsome := next?_eq_some_iff.2 ⟨rfl, hlt, hidle⟩
  cases hnext.symm.trans hsome

theorem Notes.of_isOver (h : Notes P p) (ho : p.IsOver) (hi : i < p.outcomes.length) :
    ∃ x, p.outcomes[i]? = some (some x) ∧ P i x := by
  have hbegun : i < p.begun := Nat.lt_of_lt_of_le hi (begun_of_isOver ho)
  cases hx : p.outcomes[i] with
  | none =>
    have hbusy : i ∈ p.busy := by
      rw [mem_busy, isBusy_iff, List.getElem?_eq_getElem hi, hx]
      exact ⟨hbegun, rfl⟩
    rw [ho.2] at hbusy
    cases hbusy
  | some x =>
    have hsome : p.outcomes[i]? = some (some x) := by rw [List.getElem?_eq_getElem hi, hx]
    exact ⟨x, hsome, h.known hsome⟩

end VerdictClient.CommandLine.Pool
