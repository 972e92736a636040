import VerdictClient.Transport

namespace VerdictClient.Transport

namespace Call

def isClose : Call → Bool
  | close _ => true
  | send _ _ | recv _ => false

def failure? : Call → Option Failure
  | send _ answer | close answer => answer
  | recv (.error f) => some f
  | recv (.ok _) => none

/-- The call closes the transport, or it ends the use of the connection. -/
def latches (c : Call) : Bool := c.isClose || c.failure?.any Failure.endsConnection

def frame? : Call → Option Text
  | send frame none => some frame
  | send _ (some _) | recv _ | close _ => none

end Call

def written? : Call × Except Error Reply → Option Text
  | (.send frame _, .ok _) => some frame
  | _ => none

variable {t : Transport} {c : Call} {cs ds : List Call} {f : Failure}

theorem send_of_closed (h : t.closed = true) (frame : Text) (o : Option Failure) :
    t.send frame o = (.error (.closed .unnamed), t) := by
  simp only [send, h, if_true]

theorem close_of_closed (h : t.closed = true) : t.close = t := by
  simp only [close, h, if_true]

theorem closed_close (t : Transport) : t.close.closed = true := by
  unfold close
  split
  · assumption
  · rfl

theorem fail_of_endsConnection (h : f.endsConnection = true) (t : Transport) :
    t.fail f = (.closed (.reported f.text), { t with closed := true }) :=
  if_pos h

theorem fail_of_not_endsConnection (h : f.endsConnection = false) (t : Transport) :
    t.fail f = (.ofFailure f, t) := by
  simp only [fail, h, Bool.false_eq_true, if_false]

theorem fail_of_closed (h : t.closed = true) (f : Failure) : (t.fail f).2 = t := by
  unfold fail
  split
  · rw [← h]
  · rfl

theorem snd_fail (f : Failure) (t : Transport) :
    (t.fail f).2 = { t with closed := t.closed || f.endsConnection } := by
  cases h : f.endsConnection with
  | true => rw [fail_of_endsConnection h, Bool.or_true]
  | false => rw [fail_of_not_endsConnection h, Bool.or_false]

theorem perform_of_closed (h : t.closed = true) (c : Call) : (t.perform c).2 = t := by
  cases c with
  | send frame o => exact congrArg Prod.snd (send_of_closed h frame o)
  | recv o =>
    cases o with
    | ok f => rfl
    | error f => exact fail_of_closed h f
  | close o => exact close_of_closed h

/-- All that a call does to a transport that is not closed. -/
theorem perform_of_open (h : t.closed = false) (c : Call) : (t.perform c).2 =
    ⟨c.latches, t.taken ++ c.frame?.toList, t.closes + c.isClose.toNat⟩ := by
  obtain ⟨cl, fs, n⟩ := t
  obtain rfl : cl = false := h
  cases c with
  | send frame o =>
    cases o with
    | none => rfl
    | some f =>
      have hs : ((⟨false, fs, n⟩ : Transport).perform (.send frame (some f))).2 =
          ((⟨false, fs, n⟩ : Transport).fail f).2 := rfl
      rw [hs, snd_fail]
      simp [Call.latches, Call.isClose, Call.failure?, Call.frame?]
  | recv o =>
    cases o with
    | ok f => simp [perform, recv, Call.latches, Call.isClose, Call.failure?, Call.frame?]
    | error f =>
      have hs : ((⟨false, fs, n⟩ : Transport).perform (.recv (.error f))).2 =
          ((⟨false, fs, n⟩ : Transport).fail f).2 := rfl
      rw [hs, snd_fail]
      simp [Call.latches, Call.isClose, Call.failure?, Call.frame?]
  | close o => simp [perform, close, Call.latches, Call.isClose, Call.frame?]

theorem written?_perform (c : Call) (t : Transport) :
    written? (c, (t.perform c).1) = if t.closed then none else c.frame? := by
  cases c with
  | send frame o =>
    cases ht : t.closed with
    | true => simp [perform, send_of_closed ht, written?, Except.map]
    | false => cases o <;> simp [perform, send, write, ht, written?, Except.map, Call.frame?]
  | recv o => cases ht : t.closed <;> rfl
  | close o => cases ht : t.closed <;> rfl

theorem run_append (cs ds : List Call) (t : Transport) : t.run (cs ++ ds) = (t.run cs).run ds :=
  List.foldl_append

theorem run_of_closed (h : t.closed = true) (cs : List Call) : t.run cs = t := by
  induction cs with
  | nil => rfl
  | cons c cs ih =>
    have hc : t.run (c :: cs) = (t.perform c).2.run cs := rfl
    rw [hc, perform_of_closed h, ih]

theorem closed_run (cs : List Call) (t : Transport) :
    (t.run cs).closed = (t.closed || cs.any Call.latches) := by
  induction cs generalizing t with
  | nil => simp [run]
  | cons c cs ih =>
    have hc : t.run (c :: cs) = (t.perform c).2.run cs := rfl
    cases h : t.closed with
    | true => rw [run_of_closed h, h, Bool.true_or]
    | false => rw [hc, ih, perform_of_open h, List.any_cons, Bool.false_or]

theorem closed_run_opened (cs : List Call) :
    (opened.run cs).closed = true ↔ ∃ c ∈ cs, c.latches = true := by
  rw [closed_run]
  exact List.any_eq_true

theorem taken_run (cs : List Call) (t : Transport) :
    (t.run cs).taken = t.taken ++ (t.history cs).filterMap written? := by
  induction cs generalizing t with
  | nil => simp [run, history]
  | cons c cs ih =>
    have hc : t.run (c :: cs) = (t.perform c).2.run cs := rfl
    have hw := written?_perform c t
    rw [hc, ih, history, List.filterMap_cons, hw]
    cases h : t.closed with
    | true => rw [perform_of_closed h]; rfl
    | false =>
      rw [perform_of_open h]
      cases c.frame? <;> simp

theorem perform_of_success (hr : t.reaches c = true) (hf : c.failure? = none) (hc : c.isClose = false) :
    ∃ reply, t.perform c = (.ok reply, { t with taken := t.taken ++ c.frame?.toList }) := by
  cases c with
  | send frame o =>
    obtain rfl : o = none := hf
    have ht : t.closed = false := by simpa [reaches] using hr
    exact ⟨.nothing, by simp [perform, send, write, ht, Call.frame?, Except.map]⟩
  | recv o =>
    cases o with
    | ok x => exact ⟨.frame x, by simp [perform, recv, Call.frame?, Except.map]⟩
    | error x => cases hf
  | close o => cases hc

theorem perform_of_failure (hr : t.reaches c = true) (hf : c.failure? = some f) (hc : c.isClose = false) :
    t.perform c = (.error (t.fail f).1, (t.fail f).2) := by
  cases c with
  | send frame o =>
    obtain rfl : o = some f := hf
    have ht : t.closed = false := by simpa [reaches] using hr
    simp [perform, send, write, ht, Except.map]
  | recv o =>
    cases o with
    | ok x => cases hf
    | error x =>
      obtain rfl : x = f := Option.some_inj.1 hf
      rfl
  | close o => cases hc

/-- After any calls the frames that the connection took are those of the writes that returned, in their
order. The transport is closed if one of the calls closed it or ended the use of the connection, and it
stays so; then writes are refused and do not reach the connection. What the connection carries out
returns. Failures that end the use of the connection are told as its end, and all others are passed on and
change nothing. -/
theorem takes_what_returns (cs : List Call) :
    (opened.run cs).taken = (opened.history cs).filterMap written? ∧
    ((opened.run cs).closed = true ↔ ∃ c ∈ cs, c.latches = true) ∧
    (∀ ds es, cs = ds ++ es → (opened.run ds).closed = true → (opened.run cs).closed = true) ∧
    (∀ ds frame answer es, cs = ds ++ .send frame answer :: es → (opened.run ds).closed = true →
      (opened.run ds).reaches (.send frame answer) = false ∧
      (opened.run ds).perform (.send frame answer) = (.error (.closed .unnamed), opened.run ds)) ∧
    (∀ ds c es, cs = ds ++ c :: es → (opened.run ds).reaches c = true → c.failure? = none →
      c.isClose = false → ∃ reply, (opened.run ds).perform c =
        (.ok reply, { opened.run ds with taken := (opened.run ds).taken ++ c.frame?.toList })) ∧
    ∀ ds c es f, cs = ds ++ c :: es → (opened.run ds).reaches c = true → c.failure? = some f →
      c.isClose = false →
      (f.endsConnection = true → (opened.run ds).perform c =
        (.error (.closed (.reported f.text)), { opened.run ds with closed := true })) ∧
      (f.endsConnection = false → (opened.run ds).perform c = (.error (.ofFailure f), opened.run ds)) := by
  refine ⟨taken_run cs opened, closed_run_opened cs, fun ds es hcs hd ↦ ?_,
    fun ds frame answer es _ hd ↦ ?_, fun ds c es _ hr hf hc ↦ perform_of_success hr hf hc,
    fun ds c es f _ hr hf hc ↦ ⟨fun he ↦ ?_, fun he ↦ ?_⟩⟩
  · rw [hcs, run_append, run_of_closed hd, hd]
  · refine ⟨by simp [reaches, hd], ?_⟩
    simp only [perform, send_of_closed hd]
    rfl
  · rw [perform_of_failure hr hf hc, fail_of_endsConnection he]
  · rw [perform_of_failure hr hf hc, fail_of_not_endsConnection he]

def Sample.calls : List Call :=
  [.send "a" none, .recv (.error (.runtime "odd")), .send "b" (some (.system "down")), .send "c" none]

theorem takes_what_returns_outage :
    (opened.run Sample.calls).taken = [Text.ofString "a"] ∧ (opened.run Sample.calls).closed = true ∧
      (opened.run [.send "a" none]).perform (.recv (.error (.runtime "odd"))) =
        (.error (.passed (.runtime "odd")), opened.run [.send "a" none]) ∧
      (∃ reply, (opened.perform (.send "a" none)).1 = .ok reply) ∧
      ((opened.run (Sample.calls.take 2)).perform (.send "b" (some (.system "down")))).1 =
        .error (.closed (.reported "down")) ∧
      (opened.run (Sample.calls.take 3)).perform (.send "c" none) =
        (.error (.closed .unnamed), opened.run (Sample.calls.take 3)) := by
  obtain ⟨htaken, hclosed, -, hrefused, hreturns, hfails⟩ := takes_what_returns Sample.calls
  obtain ⟨reply, hreply⟩ := hreturns [] (.send "a" none) _ rfl rfl rfl rfl
  obtain ⟨-, hpassed⟩ := hfails [.send "a" none] (.recv (.error (.runtime "odd"))) _ _ rfl rfl rfl rfl
  obtain ⟨hend, -⟩ := hfails (Sample.calls.take 2) (.send "b" (some (.system "down"))) _ _ rfl rfl rfl rfl
  refine ⟨htaken, hclosed.2 ⟨.send "b" (some (.system "down")), ?_, rfl⟩, hpassed rfl,
    ⟨reply, congrArg Prod.fst hreply⟩, ?_, (hrefused (Sample.calls.take 3) "c" none [] rfl rfl).2⟩
  · simp [Sample.calls]
  · rw [hend rfl]
    rfl

end VerdictClient.Transport
