import VerdictClient.Proofs.CommandLine.Working

namespace VerdictClient.CommandLine

open Session (ClosesAndReturns Continues Occurs Comes calls)

variable {t : Task} {w : World} {files : FileSystem} {token : Value}
  {es : List (Session.Event Float)} {ending : Ending} {p : Pool Outcome} {x : Error}
  {c : Option Classification} {talk : Session.Conversation Float}

namespace Task

/-- The call that closes the session has come back, and the program ends. -/
structure Ends (t : Task) (files : FileSystem) (token : Value) (es : List (Session.Event Float))
    (ending : Ending) : Prop where
  course : Course t files token es (.closing ending)
  returned : ∃ r, ((t.session files).run es).callers.getLast? = some (.ended r)

theorem Course.last (h : Course t files token es (.closing ending)) :
    ∃ is, calls es = is ++ [.close] := by
  obtain ⟨x, -, hc, -⟩ | ⟨p, -, -, hc, -⟩ := h.past
  · exact ⟨[.connect token], hc⟩
  · exact ⟨_, hc⟩

theorem getLast?_callers {is : List (Session.Invocation Float)} (h : calls es = is ++ [.close]) :
    ((t.session files).run es).callers.getLast? =
      ((t.session files).run es).callers[is.length]? := by
  have hlen := Session.length_callers_run (t.session files) es
  have hstart : (t.session files).callers.length = 0 := rfl
  rw [h, List.length_append, List.length_singleton, hstart, Nat.zero_add] at hlen
  rw [List.getLast?_eq_getElem?, hlen, Nat.add_sub_cancel]

theorem occurs_close {is : List (Session.Invocation Float)} (h : calls es = is ++ [.close]) :
    Occurs (Comes is.length .close) (t.session files) es := by
  apply Session.occurs_of_calls
  rw [h, List.getElem?_concat_length]

theorem Ends.closed (h : Ends t files token es ending) :
    ((t.session files).run es).state = .closed ∧ ((t.session files).run es).IsGone := by
  obtain ⟨is, his⟩ := h.course.last
  obtain ⟨r, hr⟩ := h.returned
  rw [getLast?_callers his] at hr
  have hcloses : ClosesAndReturns (t.session files) es := ⟨is.length, r, occurs_close his, hr⟩
  exact ⟨hcloses.hasDone.1, hcloses.hasDone.2.1⟩

theorem Ends.refused (h : Ends t files token es ending)
    (hx : ((t.session files).run es).callers[0]? = some (.ended (.error x))) :
    calls es = [.connect token, .close] ∧ ending = .ofError x := by
  obtain ⟨x', hx', hc, hend⟩ | ⟨p, -, ha, -, -⟩ := h.course.past
  · obtain rfl : x' = x := by
      cases hx'.symm.trans hx
      rfl
    exact ⟨hc, hend⟩
  · obtain ⟨c, hc⟩ := ha.connected
    cases hc.symm.trans hx

theorem Asking.results (h : Asking t files token es p) (hp : p.IsOver)
    (hcalls : ∀ i < t.subjects.length, (calls es)[Work.caller i]? = some (.ask (t.ask i))) :
    ∃ result : Nat → Except Error Classification, ∀ i < t.subjects.length,
      p.outcomes[i]? = some (some ((result i).map some)) ∧
        Shows ((t.session files).run es) i ((result i).map some) := by
  have hone : ∀ i < t.subjects.length, ∃ result : Except Error Classification,
      p.outcomes[i]? = some (some (result.map some)) ∧
        Shows ((t.session files).run es) i (result.map some) := by
    intro i hi
    obtain ⟨r, hr, hshows⟩ := h.notes.of_isOver hp (h.length ▸ hi)
    obtain ⟨q, hq, ha⟩ := Session.isAsking_run (Session.occurs_of_calls (hcalls i hi))
    obtain rfl : q = .ended r := Option.some_inj.1 (hq.symm.trans hshows)
    -- A caller that asks does not end without a verdict or an error.
    cases r with
    | error x => exact ⟨.error x, hr, hshows⟩
    | ok v =>
      cases v with
      | none => exact absurd rfl ha
      | some v => exact ⟨.ok v, hr, hshows⟩
  have hne : Nonempty (Except Error Classification) := ⟨.error .timeoutSize⟩
  choose! result hresult using hone
  exact ⟨result, hresult⟩

/-- If the session was connected, every subject is shown with what the caller that asked for it got. -/
theorem Ends.connected (h : Ends t files token es ending)
    (hc : ((t.session files).run es).callers[0]? = some (.ended (.ok c))) :
    calls es = .connect token :: t.asks t.subjects.length ++ [.close] ∧
    ∃ result : Nat → Except Error Classification,
      (∀ i < t.subjects.length, Shows ((t.session files).run es) i ((result i).map some)) ∧
      ((∀ i < t.subjects.length, IsAnswer (result i)) →
        ending = .verdicts (rows t.subjects result)) := by
  obtain ⟨x, hx, -, -⟩ | ⟨p, hp, ha, hcalls, hend⟩ := h.course.past
  · cases hx.symm.trans hc
  · refine ⟨hcalls, ?_⟩
    have hasks : ∀ i < t.subjects.length, (calls es)[Work.caller i]? = some (.ask (t.ask i)) := by
      intro i hi
      rw [hcalls]
      simp [Work.caller, asks, List.getElem?_append_left, hi]
    obtain ⟨result, hresult⟩ := ha.results hp hasks
    refine ⟨result, fun i hi ↦ (hresult i hi).2, fun hanswer ↦ ?_⟩
    rw [hend]
    exact ofOutcomes_eq_rows ha.length (fun i hi ↦ (hresult i hi).1) hanswer

end Task

def Task.connecting (t : Task) (w : World) (token : Value) : Session.Conversation Float :=
  ((Session.Conversation.start (t.session w.files)).begin w.service (.connect token)).settled w.service

namespace Sample

def digest : Text := List.replicate 64 (.char '0')

def verdict : Text :=
  "\x7b\"kind\":\"VerdictResponse\",\"guid\":\"00000000-0000-0000-0000-000000000001\"," ++
    "\"sha256\":\"\",\"verdict\":\"Malicious\"\x7d"

def service : Session.Service where
  opening := none
  answer _ :=
    [.text "\x7b\"kind\":\"AuthResponse\",\"success\":true,\"session_id\":\"s\"\x7d", .text verdict]
  upload _ _ := ([], .ok (.ofUtf8 200 []))

def unmarked : Bool → Text → Text
  | _, [] => []
  | inside, c :: cs =>
    if c = .char '[' then unmarked true cs
    else if c = .char ']' then unmarked false cs
    else if inside then unmarked true cs
    else c :: unmarked false cs

/-- A terminal that takes what stands in brackets for a mark, and refuses one that ends nothing. -/
def terminal : Terminal := fun t ↦
  if t.take 2 = "[/" then .error ("closing tag '" ++ t ++ "' at position 0 doesn't match any open tag")
  else .ok (unmarked false t)

def world : World := ⟨⟨[], some "/home"⟩, .empty, fun _ ↦ .ok (.ofUtf8 500 []), service, terminal⟩

def args : List Text := ["--token", "t", "sha256", "x", digest]

theorem results : (run world args).session.map (fun s ↦ [s.result? 0, s.result? 1, s.result? 2]) =
    some [some (.ok none), some (.error (.invalidDigest "x")),
      some (.ok (some ⟨[], .malicious, none⟩))] := by
  decide +kernel

end Sample

namespace Sample

def clean : Session.Service := { service with
  answer := fun _ ↦
    [.text "\x7b\"kind\":\"AuthResponse\",\"success\":true,\"session_id\":\"s\"\x7d",
      .text ("\x7b\"kind\":\"VerdictResponse\",\"guid\":\"00000000-0000-0000-0000-000000000001\"," ++
        "\"sha256\":\"\",\"verdict\":\"Clean\"\x7d")] }

deriving instance DecidableEq for Row

end Sample

end VerdictClient.CommandLine
