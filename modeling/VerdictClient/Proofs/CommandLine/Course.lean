import VerdictClient.Proofs.CommandLine.Table
import VerdictClient.Proofs.Session.Calls

namespace VerdictClient.CommandLine

open Session (Comes Occurs calls)

inductive Progress where
  | connecting
  | asking (pool : Pool Outcome)
  | closing (ending : Ending)

namespace Task

def session (t : Task) (files : FileSystem) : Session Float := .start (.ofConfig t.config) files

def ask (t : Task) (i : Nat) : Session.Ask Float := ⟨t.query i, .null, none⟩

/-- How far the program can have come when these events have happened to its session. -/
inductive Course (t : Task) (files : FileSystem) (token : Value) :
    List (Session.Event Float) → Progress → Prop
  | connect : Course t files token [.call (.connect token)] .connecting
  | happen {es : List (Session.Event Float)} {g : Progress} {e : Session.Event Float}
      (h : Course t files token es g) (he : e.call? = none) : Course t files token (es ++ [e]) g
  | refused {es : List (Session.Event Float)} {x : Error} (h : Course t files token es .connecting)
      (hx : ((t.session files).run es).callers[0]? = some (.ended (.error x))) :
      Course t files token (es ++ [.call .close]) (.closing (.ofError x))
  | connected {es : List (Session.Event Float)} {c : Option Classification}
      (h : Course t files token es .connecting)
      (hc : ((t.session files).run es).callers[0]? = some (.ended (.ok c))) :
      Course t files token es (.asking (.start t.subjects.length))
  | begin {es : List (Session.Event Float)} {p : Pool Outcome} {i : Nat}
      (h : Course t files token es (.asking p)) (hi : p.next? = some i) :
      Course t files token (es ++ [.call (.ask (t.ask i))]) (.asking (p.step .begun))
  | finish {es : List (Session.Event Float)} {p : Pool Outcome} {i : Nat} {r : Outcome}
      (h : Course t files token es (.asking p))
      (hr : ((t.session files).run es).callers[Work.caller i]? = some (.ended r)) :
      Course t files token es (.asking (p.step (.finished i r)))
  | asked {es : List (Session.Event Float)} {p : Pool Outcome} (h : Course t files token es (.asking p))
      (hp : p.IsOver) : Course t files token (es ++ [.call .close])
        (.closing (.ofOutcomes (t.subjects.zip p.outcomes)))

variable {t : Task} {files : FileSystem} {token : Value} {es fs : List (Session.Event Float)}
  {g : Progress} {p : Pool Outcome} {ending : Ending} {x : Error} {i : Nat}

theorem Course.append (h : Course t files token es g) (hfs : calls fs = []) :
    Course t files token (es ++ fs) g := by
  induction fs using List.reverseRecOn with
  | nil => rwa [List.append_nil]
  | append_singleton fs e ih =>
    rw [Session.calls_append, List.append_eq_nil_iff] at hfs
    have he : e.call? = none := List.filterMap_eq_nil_iff.1 hfs.2 e (List.mem_singleton.2 rfl)
    rw [← List.append_assoc]
    exact (ih hfs.1).happen he

def asks (t : Task) (begun : Nat) : List (Session.Invocation Float) :=
  (List.range begun).map fun i ↦ .ask (t.ask i)

theorem asks_succ (t : Task) (n : Nat) : t.asks (n + 1) = t.asks n ++ [.ask (t.ask n)] := by
  unfold asks
  rw [List.range_succ, List.map_append]
  rfl

/-- What a pool knows of a subject is how the caller that asked for it ended. -/
def Shows (s : Session Float) (i : Nat) (r : Outcome) : Prop :=
  s.callers[Work.caller i]? = some (.ended r)

/-- The session is connected, and the subjects of a pool have been asked for, those that were begun
with. -/
structure Asking (t : Task) (files : FileSystem) (token : Value) (es : List (Session.Event Float))
    (p : Pool Outcome) : Prop where
  connected : ∃ c, ((t.session files).run es).callers[0]? = some (.ended (.ok c))
  length : p.outcomes.length = t.subjects.length
  notes : p.Notes (Shows ((t.session files).run es))

/-- What has happened when the program has come so far. -/
def Past (t : Task) (files : FileSystem) (token : Value) (es : List (Session.Event Float)) :
    Progress → Prop
  | .connecting => calls es = [.connect token]
  | .asking p => calls es = .connect token :: t.asks p.begun ∧ Asking t files token es p
  | .closing ending =>
    (∃ x, ((t.session files).run es).callers[0]? = some (.ended (.error x)) ∧
      calls es = [.connect token, .close] ∧ ending = .ofError x) ∨
    ∃ p : Pool Outcome, p.IsOver ∧ Asking t files token es p ∧
      calls es = .connect token :: t.asks t.subjects.length ++ [.close] ∧
      ending = .ofOutcomes (t.subjects.zip p.outcomes)

theorem ended_concat {r : Outcome} {n : Nat} (e : Session.Event Float)
    (h : ((t.session files).run es).callers[n]? = some (.ended r)) :
    ((t.session files).run (es ++ [e])).callers[n]? = some (.ended r) := by
  rw [Session.run_concat]
  exact Session.ended_stays h e

theorem Asking.concat (h : Asking t files token es p) (e : Session.Event Float) :
    Asking t files token (es ++ [e]) p where
  connected := by
    obtain ⟨c, hc⟩ := h.connected
    exact ⟨c, ended_concat e hc⟩
  length := h.length
  notes := h.notes.mono fun _ _ hr ↦ ended_concat e hr

theorem Past.happen {e : Session.Event Float} (h : Past t files token es g) (he : e.call? = none) :
    Past t files token (es ++ [e]) g := by
  have hcalls : calls (es ++ [e]) = calls es := by
    rw [Session.calls_concat, he, Option.toList_none, List.append_nil]
  cases g with
  | connecting =>
    have h : calls es = [.connect token] := h
    exact hcalls.trans h
  | asking p =>
    obtain ⟨hc, ha⟩ := h
    exact ⟨hcalls.trans hc, ha.concat e⟩
  | closing ending =>
    obtain ⟨x, hx, hc, hend⟩ | ⟨p, hp, ha, hc, hend⟩ := h
    · exact .inl ⟨x, ended_concat e hx, hcalls.trans hc, hend⟩
    · exact .inr ⟨p, hp, ha.concat e, hcalls.trans hc, hend⟩

theorem Past.begin (h : Past t files token es (.asking p)) (hi : p.next? = some i) :
    Past t files token (es ++ [.call (.ask (t.ask i))]) (.asking (p.step .begun)) := by
  obtain ⟨hc, ha⟩ := h
  obtain ⟨rfl, -, -⟩ := Pool.next?_eq_some_iff.1 hi
  have hnext := ha.concat (.call (.ask (t.ask p.begun)))
  rw [Pool.step_begun hi]
  refine ⟨?_, hnext.connected, hnext.length, ?_⟩
  · rw [Session.calls_concat, hc, asks_succ]
    rfl
  · rw [← Pool.step_begun hi]
    exact hnext.notes.step fun _ _ he ↦ by cases he

theorem Past.finish {r : Outcome} (h : Past t files token es (.asking p))
    (hr : Shows ((t.session files).run es) i r) :
    Past t files token es (.asking (p.step (.finished i r))) := by
  obtain ⟨hc, ha⟩ := h
  refine ⟨?_, ha.connected, by rw [Pool.length_step, ha.length], ha.notes.step fun j q he _ ↦ ?_⟩
  · rw [hc]
    cases hb : p.isBusy i with
    | true => rw [Pool.step_finished hb]
    | false => rw [Pool.step_finished_of_not_busy hb]
  · cases he
    exact hr

/-- Wherever the program has come to, this has happened. -/
theorem Course.past (h : Course t files token es g) : Past t files token es g := by
  induction h with
  | connect => rfl
  | happen _ he ih => exact ih.happen he
  | @refused es x _ hx ih =>
    have ih : calls es = [.connect token] := ih
    exact .inl ⟨x, ended_concat _ hx, by rw [Session.calls_concat, ih]; rfl, rfl⟩
  | @connected es c _ hc ih =>
    have ih : calls es = [.connect token] := ih
    exact ⟨ih, ⟨c, hc⟩, List.length_replicate, Pool.notes_start _ _⟩
  | begin _ hi ih => exact ih.begin hi
  | finish _ hr ih => exact ih.finish hr
  | @asked es p _ hp ih =>
    obtain ⟨hc, ha⟩ := ih
    have hbegun : p.begun = t.subjects.length := by
      rw [← ha.length]
      exact Nat.le_antisymm ha.notes.begun_le (Pool.begun_of_isOver hp)
    refine .inr ⟨p, hp, ha.concat _, ?_, rfl⟩
    rw [Session.calls_concat, hc, hbegun]
    rfl

end Task

end VerdictClient.CommandLine
