import VerdictClient.Proofs.Session.Step

namespace VerdictClient.Session

variable {τ : Type}

/-- The session with other callers and another log. -/
def recast (cs : List (Phase τ)) (ls : List LogLine) (s : Session τ) : Session τ :=
  { s with callers := cs, log := ls }

variable (s : Session τ) (cs : List (Phase τ)) (ls : List LogLine)

/-- The same phase, and sessions that differ in their callers and their logs, with the same new lines at
the ends of these. -/
def AgreesWith (x y : Phase τ × Session τ) : Prop :=
  ∃ new, y.2.log = s.log ++ new ∧ x = (y.1, y.2.recast cs (ls ++ new))

variable {s cs ls}

theorem AgreesWith.of_quiet {x y : Phase τ × Session τ} (hl : y.2.log = s.log)
    (h : x = (y.1, y.2.recast cs ls)) : AgreesWith s cs ls x y :=
  ⟨[], by rw [hl, List.append_nil], by rw [h, List.append_nil]⟩

def KeepsUp (s : Session τ) (cs : List (Phase τ)) (ls : List LogLine) (x y : Session τ) : Prop :=
  ∃ new, y.log = s.log ++ new ∧ x = y.recast cs (ls ++ new)

theorem KeepsUp.of_quiet {x y : Session τ} (hl : y.log = s.log) (h : x = y.recast cs ls) :
    KeepsUp s cs ls x y :=
  ⟨[], by rw [hl, List.append_nil], by rw [h, List.append_nil]⟩

variable (s cs ls)

theorem authorization_recast : (s.recast cs ls).authorization = s.authorization := rfl

theorem prepare_recast (a : Ask τ) :
    (s.recast cs ls).prepare a = ((s.prepare a).1, (s.prepare a).2.recast cs ls) := by
  unfold prepare
  rw [authorization_recast]
  cases a.query.refused? with
  | some e => rfl
  | none =>
    cases s.authorization with
    | error e => rfl
    | ok id =>
      have hf : a.query.fields (s.recast cs ls).files = a.query.fields s.files := rfl
      simp only [hf]
      cases a.query.fields s.files with
      | error e => rfl
      | ok subject =>
        unfold chooseGuid
        cases a.guid.isTruthy <;> simp only [requestFields, recast, if_true, Bool.false_eq_true, if_false]
        all_goals
          generalize VerdictRequest.ofFields _ _ = r
          cases r <;> rfl

theorem write_recast (f : Text) (o : Option Failure) :
    (s.recast cs ls).write f o = ((s.write f o).1, (s.write f o).2.recast cs ls) := by
  unfold write
  have hc : (s.recast cs ls).connection = s.connection := rfl
  rw [hc]
  cases s.connection <;> rfl

theorem failConnecting_recast :
    (s.recast cs ls).failConnecting = s.failConnecting.recast cs ls := by
  unfold failConnecting
  have hs : (s.recast cs ls).state = s.state := rfl
  rw [hs]
  split <;> rfl

theorem closedBy_recast (e : Error) :
    (s.recast cs ls).closedBy e = (s.closedBy e).recast cs ls := by
  cases e <;> rfl

theorem log_failConnecting : s.failConnecting.log = s.log := by
  obtain ⟨st, h⟩ := s.failConnecting_eq
  rw [h]

theorem log_closedBy (e : Error) : (s.closedBy e).log = s.log := by
  obtain ⟨st, h⟩ := s.closedBy_eq e
  rw [h]

theorem log_of_write {s' : Session τ} {f : Text} {o : Option Failure} {r : Except Error Unit}
    (h : s.write f o = (r, s')) : s'.log = s.log := by
  obtain ⟨t, rfl⟩ := write_eq h
  rfl

theorem askStep_recast (a : Ask τ) : AgreesWith s cs ls ((s.recast cs ls).askStep a) (s.askStep a) := by
  have h := s.prepare_recast cs ls a
  obtain ⟨k, hk⟩ := s.prepare_snd a
  have hl : (s.prepare a).2.log = s.log := by rw [hk]
  unfold askStep
  rw [h]
  generalize s.prepare a = x at hl
  rcases x with ⟨e | j, s'⟩ <;> exact .of_quiet hl rfl

theorem enterStep_recast (r : AuthResponse) :
    AgreesWith s cs ls ((s.recast cs ls).enterStep r) (s.enterStep r) := by
  unfold enterStep
  cases grantedId? r with
  | none => exact .of_quiet s.log_failConnecting (Prod.ext rfl (failConnecting_recast s cs ls))
  | some id =>
    have hs : (s.recast cs ls).state = s.state := rfl
    simp only [hs]
    split
    · exact ⟨_, rfl, rfl⟩
    · exact .of_quiet rfl rfl

theorem connectStep_recast (x : Value) :
    AgreesWith s cs ls ((s.recast cs ls).connectStep x) (s.connectStep x) := by
  have hs : (s.recast cs ls).state = s.state := rfl
  simp only [connectStep, hs]
  split <;> exact .of_quiet rfl rfl

theorem openingStep_recast (x : Value) (o : Option Failure) :
    AgreesWith s cs ls ((s.recast cs ls).openingStep x o) (s.openingStep x o) := by
  have hs : (s.recast cs ls).settings = s.settings := rfl
  simp only [openingStep, hs]
  cases Transport.openResult s.settings.url o with
  | ok t => exact ⟨_, rfl, rfl⟩
  | error e => exact .of_quiet (s.log_closedBy e) (Prod.ext rfl (closedBy_recast s cs ls e))

theorem installStep_recast (x : Value) :
    AgreesWith s cs ls ((s.recast cs ls).installStep x) (s.installStep x) := by
  have hs : (s.recast cs ls).state = s.state := rfl
  simp only [installStep, hs]
  split <;> exact .of_quiet rfl rfl

theorem checkStep_recast (j : Job τ) :
    AgreesWith s cs ls ((s.recast cs ls).checkStep j) (s.checkStep j) := by
  have hs : (s.recast cs ls).transport? = s.transport? := rfl
  simp only [checkStep, hs]
  split <;> exact .of_quiet rfl rfl

theorem expireStep_recast (j : Job τ) (st : Stage) (k : Nat) :
    AgreesWith s cs ls ((s.recast cs ls).expireStep j st k) (s.expireStep j st k) := by
  unfold expireStep
  dsimp only
  have hc : ((s.recast cs ls).withCorrelator ((s.recast cs ls).correlator.forget k)).correlator =
      (s.withCorrelator (s.correlator.forget k)).correlator := rfl
  rw [hc]
  cases (s.withCorrelator (s.correlator.forget k)).correlator.ticket? k <;> exact .of_quiet rfl rfl

theorem uploadStep_recast (n : Nat) (j : Job τ) (k : Nat) (x : Upload.Target) (b : Upload.Content)
    (l : Option Value) :
    AgreesWith s cs ls ((s.recast cs ls).uploadStep n j k x b l) (s.uploadStep n j k x b l) := by
  have hu : Upload.start (s.recast cs ls).files x ⟨(s.recast cs ls).settings.uploadTimeout, l⟩ b =
    Upload.start s.files x ⟨s.settings.uploadTimeout, l⟩ b := rfl
  simp only [uploadStep, hu]
  cases Upload.start s.files x ⟨s.settings.uploadTimeout, l⟩ b <;> exact .of_quiet rfl rfl

theorem uploadingStep_recast (j : Job τ) (k : Nat) (x : Upload.Target) (b : Upload.Content)
    (o : Http.Outcome) :
    AgreesWith s cs ls ((s.recast cs ls).uploadingStep j k x b o) (s.uploadingStep j k x b o) := by
  unfold uploadingStep
  cases Upload.finish x b o with
  | error e => exact .of_quiet rfl rfl
  | ok line => exact ⟨_, rfl, rfl⟩

theorem disconnectStep_recast (b₁ b₂ : Bool) :
    AgreesWith s cs ls ((s.recast cs ls).disconnectStep b₁ b₂) (s.disconnectStep b₁ b₂) := by
  cases b₂ <;> exact .of_quiet rfl rfl

theorem giveUpStep_recast : AgreesWith s cs ls (s.recast cs ls).giveUpStep s.giveUpStep :=
  ⟨s.receiver.cancelAuth.log, log_failConnecting _,
    Prod.ext rfl (failConnecting_recast (s.withReceiver s.receiver.cancelAuth) cs _)⟩

theorem joinStep_recast (b : Bool) :
    AgreesWith s cs ls ((s.recast cs ls).joinStep b) (s.joinStep b) := by
  cases b with
  | true => exact .of_quiet rfl rfl
  | false => exact ⟨_, rfl, rfl⟩

theorem frameStep_recast (f : Frame) :
    KeepsUp s cs ls ((s.recast cs ls).frameStep f) (s.frameStep f) := by
  unfold frameStep
  have hr : (s.recast cs ls).reader = s.reader := rfl
  have hd : (s.recast cs ls).receiver = s.receiver := rfl
  rw [hr, hd]
  cases s.reader with
  | reading => rcases s.receiver.dispatch f with ⟨c | u, r⟩ <;> exact ⟨_, rfl, rfl⟩
  | idle | failWaiter | failRequests | report | ended => exact .of_quiet rfl rfl

theorem lostStep_recast (f : Failure) :
    KeepsUp s cs ls ((s.recast cs ls).lostStep f) (s.lostStep f) := by
  unfold lostStep
  have hr : (s.recast cs ls).reader = s.reader := rfl
  have hc : (s.recast cs ls).connection = s.connection := rfl
  rw [hr, hc]
  cases s.reader <;> cases s.connection <;> exact .of_quiet rfl rfl

theorem readerStep_recast : KeepsUp s cs ls (s.recast cs ls).readerStep s.readerStep := by
  unfold readerStep
  have hr : (s.recast cs ls).reader = s.reader := rfl
  rw [hr]
  cases s.reader with
  | report c =>
    have hs : (s.recast cs ls).state = s.state := rfl
    simp only [reportLoss, hs]
    split
    · exact ⟨_, rfl, rfl⟩
    · exact .of_quiet rfl rfl
  | failWaiter | failRequests => exact ⟨_, rfl, rfl⟩
  | idle | reading | ended => exact .of_quiet rfl rfl

variable [Clock τ]

theorem sendStep_recast (j : Job τ) (k : Nat) (o : Option Failure) :
    AgreesWith s cs ls ((s.recast cs ls).sendStep j k o) (s.sendStep j k o) := by
  unfold sendStep
  cases (Outbound.verdict j.request).encode with
  | error e => exact .of_quiet rfl rfl
  | ok f =>
    rcases hw : s.write f o with ⟨e | u, s'⟩
    all_goals
      have hl : s'.log = s.log := log_of_write s hw
      simp only [write_recast, hw]
    · cases e <;> exact .of_quiet hl rfl
    · exact ⟨_, congrArg (· ++ _) hl, rfl⟩

theorem authSettled_recast (p : Phase τ) (o : Future AuthResponse) :
    AgreesWith s cs ls (((s.recast cs ls).authSettled o).getD (p, s.recast cs ls))
      ((s.authSettled o).getD (p, s)) := by
  cases o with
  | pending =>
    have hp : (s.recast cs ls).patience = s.patience := rfl
    simp only [authSettled, hp]
    cases s.patience <;> exact .of_quiet rfl rfl
  | done | cancelled => exact .of_quiet rfl rfl
  | failed e =>
    cases e with
    | authentication c =>
      exact .of_quiet s.log_failConnecting (Prod.ext rfl (failConnecting_recast s cs ls))
    | _ => exact .of_quiet rfl rfl

theorem greetStep_recast (x : Value) (w : Nat) (o : Option Failure) :
    AgreesWith s cs ls ((s.recast cs ls).greetStep x w o) (s.greetStep x w o) := by
  unfold greetStep
  cases greeting x with
  | error e => exact .of_quiet rfl rfl
  | ok f =>
    rcases hw : s.write f o with ⟨e | u, s'⟩
    all_goals
      have hl : s'.log = s.log := log_of_write s hw
      simp only [write_recast, hw]
    · exact .of_quiet ((s'.log_closedBy e).trans hl) (by rw [← closedBy_recast])
    · exact .of_quiet hl rfl

theorem registerStep_recast (j : Job τ) :
    AgreesWith s cs ls ((s.recast cs ls).registerStep j) (s.registerStep j) := by
  have hc : (s.recast cs ls).correlator = s.correlator := rfl
  have hn : (s.recast cs ls).now = s.now := rfl
  simp only [registerStep, hc, hn]
  generalize s.correlator.register _ _ _ _ = r
  rcases r with e | ⟨k, c⟩ <;> exact .of_quiet rfl rfl

theorem registerFinalStep_recast (j : Job τ) (x : Upload.Target) (b : Upload.Content)
    (l : Option Value) :
    AgreesWith s cs ls ((s.recast cs ls).registerFinalStep j x b l) (s.registerFinalStep j x b l) := by
  have hc : (s.recast cs ls).correlator = s.correlator := rfl
  have hn : (s.recast cs ls).now = s.now := rfl
  simp only [registerFinalStep, hc, hn]
  generalize s.correlator.register _ _ _ _ = r
  rcases r with e | ⟨k, c⟩ <;> exact .of_quiet rfl rfl

theorem restartStep_recast (j : Job τ) (k : Nat) :
    AgreesWith s cs ls ((s.recast cs ls).restartStep j k) (s.restartStep j k) := by
  have hn : (s.recast cs ls).now = s.now := rfl
  simp only [restartStep, hn]
  cases Correlator.deadline s.now j.timeout with
  | error e => exact .of_quiet rfl rfl
  | ok d => exact ⟨_, rfl, rfl⟩

theorem struck_recast (n : Nat) (p : Phase τ) :
    AgreesWith s cs ls (moved n p .struck (s.recast cs ls)) (moved n p .struck s) := by
  have hn : (s.recast cs ls).now = s.now := rfl
  cases p with
  | awaitAuth w k =>
    cases k with
    | none => exact .of_quiet rfl rfl
    | some k =>
      have hr : (s.recast cs ls).receiver = s.receiver := rfl
      simp only [moved, hn, hr]
      split <;> exact .of_quiet rfl rfl
  | await j st k w =>
    have hc : (s.recast cs ls).correlator = s.correlator := rfl
    simp only [moved, hn, hc]
    split <;> exact .of_quiet rfl rfl
  | _ => exact .of_quiet rfl rfl

/-- How a caller moves on does not depend on the others or on the log. -/
theorem moved_recast (n : Nat) (p : Phase τ) (sig : Signal) :
    AgreesWith s cs ls (moved n p sig (s.recast cs ls)) (moved n p sig s) := by
  cases sig with
  | struck => exact struck_recast s cs ls n p
  | opened o =>
    cases p with
    | opening x => exact openingStep_recast s cs ls x o
    | awaitAuth w k => cases k <;> exact .of_quiet rfl rfl
    | _ => exact .of_quiet rfl rfl
  | written o =>
    cases p with
    | greet x w => exact greetStep_recast s cs ls x w o
    | send j k => exact sendStep_recast s cs ls j k o
    | awaitAuth w k => cases k <;> exact .of_quiet rfl rfl
    | _ => exact .of_quiet rfl rfl
  | answered o =>
    cases p with
    | uploading j k x b => exact uploadingStep_recast s cs ls j k x b o
    | awaitAuth w k => cases k <;> exact .of_quiet rfl rfl
    | _ => exact .of_quiet rfl rfl
  | go =>
    cases p with
    | ask a => exact askStep_recast s cs ls a
    | connect x => exact connectStep_recast s cs ls x
    | install x => exact installStep_recast s cs ls x
    | awaitAuth w k => exact authSettled_recast s cs ls _ _
    | giveUp w => exact giveUpStep_recast s cs ls
    | enter r => exact enterStep_recast s cs ls r
    | check j => exact checkStep_recast s cs ls j
    | register j => exact registerStep_recast s cs ls j
    | expire j st k => exact expireStep_recast s cs ls j st k
    | registerFinal j x b l => exact registerFinalStep_recast s cs ls j x b l
    | upload j k x b l => exact uploadStep_recast s cs ls n j k x b l
    | restart j k => exact restartStep_recast s cs ls j k
    | disconnect b₁ b₂ => exact disconnectStep_recast s cs ls b₁ b₂
    | join b => exact joinStep_recast s cs ls b
    | failAll b₁ b₂ => exact ⟨_, rfl, rfl⟩
    | announce x => exact ⟨_, rfl, rfl⟩
    | opening | greet | send | await | uploading | leave | abandon | close | ended =>
      exact .of_quiet rfl rfl

theorem step_recast {e : Event τ} (hc : ∀ i, e ≠ .call i) (hm : ∀ n sig, e ≠ .move n sig) :
    KeepsUp s cs ls ((s.recast cs ls).step e) (s.step e) := by
  cases e with
  | call i => exact absurd rfl (hc i)
  | move n sig => exact absurd rfl (hm n sig)
  | frame f => exact frameStep_recast s cs ls f
  | lost f => exact lostStep_recast s cs ls f
  | reader => exact readerStep_recast s cs ls
  | clock t =>
    have hn : (s.recast cs ls).now = s.now := rfl
    simp only [step, hn]
    split <;> exact .of_quiet rfl rfl

end VerdictClient.Session
