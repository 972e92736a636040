import VerdictClient.Proofs.CommandLine.Course
import VerdictClient.Proofs.Session.Responding

namespace VerdictClient.CommandLine

open Session (Service Continues calls)

variable {t : Task} {files : FileSystem} {token : Value} {es : List (Session.Event Float)}
  {g : Progress} {s : Session Float} {w : Service} {x y : Work} {i n : Nat} {p : Pool Outcome}
  {r : Outcome}

def Task.Reaches (t : Task) (files : FileSystem) (token : Value) (s : Session Float)
    (g : Progress) : Prop :=
  ∃ es, Task.Course t files token es g ∧ (t.session files).run es = s

theorem Task.Reaches.continues (h : t.Reaches files token s g) {s' : Session Float}
    (hs : Continues s s') : t.Reaches files token s' g := by
  obtain ⟨es, hes, rfl⟩ := h
  obtain ⟨fs, hfs, rfl⟩ := hs
  exact ⟨es ++ fs, hes.append hfs, Session.run_append _ es fs⟩

theorem Task.Reaches.begin (h : t.Reaches files token s (.asking p)) (hi : p.next? = some i) :
    t.Reaches files token (s.step (.call (.ask (t.ask i)))) (.asking (p.step .begun)) := by
  obtain ⟨es, hes, rfl⟩ := h
  exact ⟨_, hes.begin hi, Session.run_concat _ es _⟩

theorem Task.Reaches.finish (h : t.Reaches files token s (.asking p)) (hr : Task.Shows s i r) :
    t.Reaches files token s (.asking (p.step (.finished i r))) := by
  obtain ⟨es, hes, rfl⟩ := h
  exact ⟨es, hes.finish hr, rfl⟩

theorem Task.Reaches.finishAll (h : t.Reaches files token s (.asking p))
    {fs : List (Pool.Event Outcome)} (hfs : ∀ e ∈ fs, ∃ i r, e = .finished i r ∧ Task.Shows s i r) :
    t.Reaches files token s (.asking (p.run fs)) := by
  induction fs generalizing p with
  | nil => exact h
  | cons e fs ih =>
    obtain ⟨i, r, rfl, hr⟩ := hfs e List.mem_cons_self
    exact ih (h.finish hr) fun e' he' ↦ hfs e' (List.mem_cons_of_mem _ he')

namespace Work

theorem result?_eq_some_iff {c : Session.Conversation Float} {r : Outcome} :
    c.result? n = some r ↔ c.scene.session.callers[n]? = some (.ended r) := by
  unfold Session.Conversation.result? Session.Scene.phase?
  constructor
  · intro h
    split at h
    · next r' hp =>
      obtain rfl := Option.some_inj.1 h
      exact hp
    · cases h
  · intro h
    rw [h]

def notes (x : Work) : List (Pool.Event Outcome) :=
  x.pool.busy.filterMap fun i ↦ (x.talk.result? (caller i)).map (.finished i)

theorem exists_of_mem_notes {e : Pool.Event Outcome} (h : e ∈ x.notes) :
    ∃ i r, e = .finished i r ∧ Task.Shows x.talk.scene.session i r := by
  obtain ⟨i, -, hi⟩ := List.mem_filterMap.1 h
  obtain ⟨r, hr, rfl⟩ := Option.map_eq_some_iff.1 hi
  exact ⟨i, r, rfl, result?_eq_some_iff.1 hr⟩

theorem finished_of_mem_notes (x : Work) : ∀ e ∈ x.notes, ∃ i r, e = .finished i r := by
  intro e he
  obtain ⟨i, r, rfl, -⟩ := exists_of_mem_notes he
  exact ⟨i, r, rfl⟩

theorem mem_notes (hi : x.pool.isBusy i = true) (hr : x.talk.result? (caller i) = some r) :
    .finished i r ∈ x.notes :=
  List.mem_filterMap.2 ⟨i, Pool.mem_busy.2 hi, by rw [hr]; rfl⟩

/-- The work is on one of its courses, and nothing is left to note. -/
structure Sound (t : Task) (files : FileSystem) (token : Value) (x : Work) : Prop where
  reaches : t.Reaches files token x.talk.scene.session (.asking x.pool)
  calm : x.talk.scene.Calm
  noted : ∀ i, x.pool.isBusy i = true → x.talk.result? (caller i) = none

theorem sound_noted (hr : t.Reaches files token x.talk.scene.session (.asking x.pool))
    (hc : x.talk.scene.Calm) : Sound t files token x.noted where
  reaches := hr.finishAll fun _ he ↦ exists_of_mem_notes he
  calm := hc
  noted := by
    intro i hi
    obtain ⟨hbusy, hnot⟩ := Pool.isBusy_run_finished x.finished_of_mem_notes hi
    cases hr : x.talk.result? (caller i) with
    | none => exact hr
    | some r => exact absurd (mem_notes hbusy hr) (hnot r)

/-- How many steps of work are left at most: five for every subject to begin with, and one for every
response that is due. -/
def left (x : Work) : Nat := 5 * (x.pool.outcomes.length - x.pool.begun) + x.talk.due

theorem left_noted (x : Work) : x.noted.left = x.left := by
  have hbegun : x.noted.pool.begun = x.pool.begun :=
    Pool.begun_run_finished x.finished_of_mem_notes
  have hlen : x.noted.pool.outcomes.length = x.pool.outcomes.length := Pool.length_run _ _
  unfold left
  rw [hbegun, hlen]
  rfl

theorem sound_step (h : Sound t files token x) (hx : x.step w t.query = some y) :
    Sound t files token y ∧ y.left < x.left := by
  unfold step at hx
  split at hx
  · next i hi =>
    cases hx
    obtain ⟨rfl, hlt, -⟩ := Pool.next?_eq_some_iff.1 hi
    have hcont := Session.Conversation.continues_begin w (.ask (t.ask x.pool.begun)) x.talk
    have hcalm : (x.talk.begin w (.ask (t.ask x.pool.begun))).scene.Calm := h.calm.toTidy.call _ _
    refine ⟨sound_noted ((h.reaches.begin hi).continues hcont) hcalm, ?_⟩
    have hneeds := hcont.needs_le (a := x.talk.answered)
    have hcall := Session.needs_call (a := x.talk.answered) x.talk.scene.session
      (.ask (t.ask x.pool.begun))
    -- Whoever asks needs four responses at most, and a subject stands for five steps.
    have hfour : (Session.Invocation.ask (t.ask x.pool.begun)).phase.needs = 4 := rfl
    have hdue : (x.talk.begin w (.ask (t.ask x.pool.begun))).due ≤ x.talk.due + 4 := by
      unfold Session.Conversation.due
      exact Nat.le_trans hneeds (Nat.le_of_eq (by rw [hcall, hfour]))
    rw [left_noted]
    unfold left
    rw [Pool.step_begun hi]
    have hask : (⟨t.query x.pool.begun, .null, none⟩ : Session.Ask Float) = t.ask x.pool.begun := rfl
    dsimp only
    rw [hask]
    omega
  · obtain ⟨c, hc, rfl⟩ := Option.map_eq_some_iff.1 hx
    obtain ⟨hcalm, hdue⟩ := Session.Conversation.calm_respond Clock.isStrict_float h.calm hc
    have hcont := Session.Conversation.continues_respond hc
    refine ⟨sound_noted (h.reaches.continues hcont) hcalm, ?_⟩
    rw [left_noted]
    unfold left
    dsimp only
    omega

theorem sound_run (h : Sound t files token x) (hn : x.left ≤ n) :
    Sound t files token (run w t.query n x) ∧ (run w t.query n x).step w t.query = none := by
  induction n generalizing x with
  | zero =>
    refine ⟨h, ?_⟩
    cases hx : x.step w t.query with
    | none => exact hx
    | some y =>
      have hlt := (sound_step h hx).2
      omega
  | succ n ih =>
    unfold run
    split
    · next y hy =>
      obtain ⟨hs, hlt⟩ := sound_step h hy
      exact ih hs (by omega)
    · next hnone => exact ⟨h, hnone⟩

end Work

end VerdictClient.CommandLine
