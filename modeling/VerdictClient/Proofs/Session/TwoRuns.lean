import VerdictClient.Proofs.Session.Likeness
import VerdictClient.Proofs.Session.Wire

namespace VerdictClient.Session

variable {τ : Type} {files : FileSystem} {R : Likeness files} {s s' : Session τ}

theorem Job.Alike.request {j j' : Job τ} (hj : j.Alike R j') : j'.request = j.request := by
  obtain ⟨-⟩ := hj
  rfl

theorem Job.Alike.timeout {j j' : Job τ} (hj : j.Alike R j') : j'.timeout = j.timeout := by
  obtain ⟨-⟩ := hj
  rfl

namespace Alike

theorem withReceiver (h : s.Alike R s') {r r' : Receiver τ} (hr : r.Alike R r') :
    (s.withReceiver r).Alike R (s'.withReceiver r') := by
  obtain ⟨hf, ht, -, hcs, hps, hls⟩ := h
  simp only [Session.withReceiver, hr.log]
  exact ⟨hf, ht, hr.flushed, hcs, hps, R.lines hls _⟩

theorem receiver (h : s.Alike R s') : s.receiver.Alike R s'.receiver := by
  obtain ⟨hf, ht, hr, hcs, hps, hls⟩ := h
  exact hr

theorem correlator (h : s.Alike R s') : s.correlator.Alike R s'.correlator := h.receiver.correlator

theorem withCorrelator (h : s.Alike R s') {c c' : Correlator τ} (hc : c.Alike R c') :
    (s.withCorrelator c).Alike R (s'.withCorrelator c') := by
  obtain ⟨hf, ht, hr, hcs, hps, hls⟩ := h
  exact ⟨hf, ht, hr.withCorrelator hc, hcs, hps, hls⟩

theorem state (h : s.Alike R s') : s'.state = s.state := by
  obtain ⟨⟩ := h
  rfl

theorem now (h : s.Alike R s') : s'.now = s.now := by
  obtain ⟨⟩ := h
  rfl

theorem settings (h : s.Alike R s') : s'.settings = s.settings := by
  obtain ⟨⟩ := h
  rfl

theorem patience [Clock τ] (h : s.Alike R s') : s'.patience = s.patience := by
  simp only [Session.patience, h.settings]

theorem withState (h : s.Alike R s') (st : SessionState) :
    Alike R { s with state := st } { s' with state := st } := by
  obtain ⟨hf, ht, hr, hcs, hps, hls⟩ := h
  exact ⟨hf, ht, hr, hcs, hps, hls⟩

theorem logged (h : s.Alike R s') (level : Level) (text : Text) :
    (s.logged level text).Alike R (s'.logged level text) := by
  obtain ⟨hf, ht, hr, hcs, hps, hls⟩ := h
  exact ⟨hf, ht, hr, hcs, hps, R.lines hls _⟩

theorem withReader (h : s.Alike R s') (r : Reader) :
    Alike R { s with reader := r } { s' with reader := r } := by
  obtain ⟨hf, ht, hr, hcs, hps, hls⟩ := h
  exact ⟨hf, ht, hr, hcs, hps, hls⟩

theorem connection (h : s.Alike R s') :
    Option.Rel (Transport.Alike R) s.connection s'.connection := by
  obtain ⟨hf, ht, hr, hcs, hps, hls⟩ := h
  exact ht

theorem withConnection (h : s.Alike R s') {t t' : Option Transport}
    (ht : Option.Rel (Transport.Alike R) t t') :
    Alike R { s with connection := t } { s' with connection := t' } := by
  obtain ⟨hf, -, hr, hcs, hps, hls⟩ := h
  exact ⟨hf, ht, hr, hcs, hps, hls⟩

theorem write (h : s.Alike R s') {f f' : Text} (hf : R.frame f f') (o : Option Failure) :
    (s'.write f' o).1 = (s.write f o).1 ∧ (s.write f o).2.Alike R (s'.write f' o).2 := by
  obtain ⟨hc, hc'⟩ | ⟨t, t', hc, hc', ht⟩ := rel_cases h.connection
  · simp only [Session.write, hc, hc']
    exact ⟨trivial, h⟩
  · obtain ⟨ho, ht⟩ := ht.write hf o
    simp only [Session.write, hc, hc', ho]
    exact ⟨trivial, h.withConnection (.some ht)⟩

theorem closeConnection (h : s.Alike R s') : s.closeConnection.Alike R s'.closeConnection := by
  refine h.withConnection ?_
  obtain ⟨hc, hc'⟩ | ⟨t, t', hc, hc', ht⟩ := rel_cases h.connection
  · rw [hc, hc']
    exact .none
  · rw [hc, hc']
    exact .some ht.close

theorem failConnecting (h : s.Alike R s') : s.failConnecting.Alike R s'.failConnecting := by
  simp only [Session.failConnecting, h.state]
  split
  · exact h.withState _
  · exact h

theorem closedBy (h : s.Alike R s') (e : Error) : (s.closedBy e).Alike R (s'.closedBy e) := by
  cases e with
  | closed => exact h.withState _
  | _ => exact h

theorem callers (h : s.Alike R s') : List.Forall₂ (Phase.Alike R) s.callers s'.callers := by
  obtain ⟨hf, ht, hr, hcs, hps, hls⟩ := h
  exact hcs

theorem withCallers (h : s.Alike R s') {cs cs' : List (Phase τ)}
    (hcs : List.Forall₂ (Phase.Alike R) cs cs') :
    Alike R { s with callers := cs } { s' with callers := cs' } := by
  obtain ⟨hf, ht, hr, -, hps, hls⟩ := h
  exact ⟨hf, ht, hr, hcs, hps, hls⟩

theorem connectStep (h : s.Alike R s') {x x' : Value} (hx : R.token x x') :
    StepsAlike R (s.connectStep x) (s'.connectStep x') := by
  simp only [Session.connectStep, h.state]
  split
  · obtain ⟨hf, ht, hr, hcs, hps, hls⟩ := h
    exact ⟨.opening hx, ⟨hf, ht, hr, hcs, hps, hls⟩⟩
  · exact ⟨.ended, h⟩

theorem openingStep (h : s.Alike R s') {x x' : Value} (hx : R.token x x') (o : Option Failure) :
    StepsAlike R (s.openingStep x o) (s'.openingStep x' o) := by
  simp only [Session.openingStep, h.settings]
  cases Transport.openResult s.settings.url o with
  | ok t =>
    obtain ⟨hf, -, hr, hcs, hps, hls⟩ := h
    exact ⟨.install hx, ⟨hf, .some ⟨List.forall₂_same.2 fun f _ ↦ R.frame_refl f⟩, hr, hcs, hps,
      R.lines hls _⟩⟩
  | error e => exact ⟨.ended, h.closedBy e⟩

theorem installStep (h : s.Alike R s') {x x' : Value} (hx : R.token x x') :
    StepsAlike R (s.installStep x) (s'.installStep x') := by
  simp only [Session.installStep, h.state]
  split
  · exact ⟨.leave, h⟩
  · obtain ⟨hf, ht, hr, hcs, hps, hls⟩ := h
    exact ⟨.announce hx, ⟨hf, ht, hr, hcs, hps, hls⟩⟩

theorem announceStep (h : s.Alike R s') {x x' : Value} (hx : R.token x x') :
    StepsAlike R (s.announceStep x) (s'.announceStep x') := by
  obtain ⟨hw, hr⟩ := h.receiver.expectAuth
  simp only [Session.announceStep, hw]
  exact ⟨.greet hx, (h.withReceiver hr).withReader _⟩

theorem greetStep [Clock τ] (h : s.Alike R s') {x x' : Value} (hx : R.token x x') (w : Nat)
    (o : Option Failure) : StepsAlike R (s.greetStep x w o) (s'.greetStep x' w o) := by
  obtain ⟨e, hg, hg'⟩ | ⟨f, f', hg, hg', hf⟩ := (R.greeting hx).cases
  · simp only [Session.greetStep, hg, hg']
    exact ⟨.ended, h⟩
  · obtain ⟨ho, hw⟩ := h.write hf o
    simp only [Session.greetStep, hg, hg']
    generalize s.write f o = y at ho hw
    generalize s'.write f' o = y' at ho hw
    obtain ⟨a, t⟩ := y
    obtain ⟨a', t'⟩ := y'
    obtain rfl : a' = a := ho
    rcases a' with e | _
    · exact ⟨.ended, hw.closedBy e⟩
    · have ha : t'.authWake = t.authWake := by
        obtain ⟨⟩ := hw
        rfl
      simp only [ha]
      exact ⟨.awaitAuth, hw⟩

theorem authSettled [Clock τ] (h : s.Alike R s') {p p' : Phase τ} (hp : p.Alike R p')
    (o : Future AuthResponse) :
    StepsAlike R ((s.authSettled o).getD (p, s)) ((s'.authSettled o).getD (p', s')) := by
  rcases o with _ | r | e | _
  · simp only [Session.authSettled, h.patience]
    cases s.patience with
    | ok wake => exact ⟨hp, h⟩
    | error e => exact ⟨.ended, h⟩
  · exact ⟨.enter, h⟩
  · cases e with
    | authentication c => exact ⟨.ended, h.failConnecting⟩
    | closed c => exact ⟨.ended, h.closedBy (.closed c)⟩
    | _ => exact ⟨.ended, h⟩
  · exact ⟨.ended, h.closedBy (.closed .unnamed)⟩

theorem giveUpStep (h : s.Alike R s') : StepsAlike R s.giveUpStep s'.giveUpStep :=
  ⟨.ended, (h.withReceiver (h.receiver.settleWaiter .cancelled)).failConnecting⟩

theorem shownUrl (h : s.Alike R s') : s'.shownUrl = s.shownUrl := by
  obtain ⟨⟩ := h
  rfl

theorem enterStep (h : s.Alike R s') (r : AuthResponse) :
    StepsAlike R (s.enterStep r) (s'.enterStep r) := by
  simp only [Session.enterStep, h.state, h.shownUrl]
  cases grantedId? r with
  | none => exact ⟨.ended, h.failConnecting⟩
  | some id =>
    dsimp only
    split
    · obtain ⟨hf, ht, hr, hcs, hps, hls⟩ := h
      exact ⟨.ended, ⟨hf, ht, hr, hcs, hps, R.lines hls _⟩⟩
    · exact ⟨.leave, h⟩

theorem closeStep (h : s.Alike R s') : StepsAlike R s.closeStep s'.closeStep := by
  obtain ⟨hf, ht, hr, hcs, hps, hls⟩ := h
  exact ⟨.failAll, ⟨hf, ht, hr, hcs, hps, hls⟩⟩

theorem failAllStep (h : s.Alike R s') (b₁ b₂ : Bool) :
    StepsAlike R (s.failAllStep b₁ b₂) (s'.failAllStep b₁ b₂) :=
  ⟨.disconnect, h.withReceiver (h.receiver.failRequests _)⟩

theorem disconnectStep (h : s.Alike R s') (b₁ b₂ : Bool) :
    StepsAlike R (s.disconnectStep b₁ b₂) (s'.disconnectStep b₁ b₂) := by
  cases b₂ with
  | true => exact ⟨.join, h.closeConnection⟩
  | false => exact ⟨.join, h⟩

theorem joinStep (h : s.Alike R s') (b : Bool) : StepsAlike R (s.joinStep b) (s'.joinStep b) := by
  simp only [Session.joinStep, h.shownUrl]
  cases b with
  | true => exact ⟨.ended, h⟩
  | false => exact ⟨.ended, h.logged _ _⟩

theorem leaveStep (h : s.Alike R s') (e : Error) : StepsAlike R (s.leaveStep e) (s'.leaveStep e) :=
  ⟨.ended, h.closeConnection⟩

theorem files_eq (h : s.Alike R s') : s.files = files ∧ s'.files = files := by
  obtain ⟨hf, -⟩ := h
  exact ⟨hf, hf⟩

theorem transport?_all_closed (h : s.Alike R s') :
    s'.transport?.all (·.closed) = s.transport?.all (·.closed) := by
  have hi : s'.installed = s.installed := by
    obtain ⟨⟩ := h
    rfl
  simp only [transport?, hi]
  split
  · obtain ⟨hc, hc'⟩ | ⟨t, t', hc, hc', ⟨-⟩⟩ := rel_cases h.connection
    · rw [hc, hc']
    · rw [hc, hc']
      rfl
  · rfl

theorem authorization (h : s.Alike R s') : s'.authorization = s.authorization := by
  have hid : s'.sessionId = s.sessionId := by
    obtain ⟨⟩ := h
    rfl
  simp only [Session.authorization, h.state, h.transport?_all_closed, hid]

theorem chooseGuid (h : s.Alike R s') (g : Value) : (s'.chooseGuid g).1 = (s.chooseGuid g).1 ∧
    (s.chooseGuid g).2.Alike R (s'.chooseGuid g).2 := by
  simp only [Session.chooseGuid]
  split
  · exact ⟨rfl, h⟩
  · obtain ⟨hf, ht, hr, hcs, hps, hls⟩ := h
    exact ⟨rfl, ⟨hf, ht, hr, hcs, hps, hls⟩⟩

theorem requestFields (h : s.Alike R s') (id : Text) (subject : Fields) (g : Value) :
    s'.requestFields id subject g = s.requestFields id subject g := by
  simp only [Session.requestFields, h.settings]

theorem prepare (h : s.Alike R s') {a a' : Ask τ} (ha : a.Alike R a') :
    Both (Job.Alike R) (s.prepare a).1 (s'.prepare a').1 ∧
      (s.prepare a).2.Alike R (s'.prepare a').2 := by
  obtain @⟨q, q', g, t, hq⟩ := ha
  have hfields : q'.fields s'.files = q.fields s.files := by
    rw [h.files_eq.1, h.files_eq.2, hq.fields]
  simp only [Session.prepare, hq.refused, hq.kind, h.authorization, hfields]
  cases q.refused? with
  | some e => exact ⟨.error e, h⟩
  | none =>
    cases s.authorization with
    | error e => exact ⟨.error e, h⟩
    | ok id =>
      cases q.fields s.files with
      | error e => exact ⟨.error _, h⟩
      | ok subject =>
        obtain ⟨hg, hs⟩ := h.chooseGuid g
        dsimp only
        rw [hg, hs.requestFields]
        have hset := hs.settings
        cases VerdictRequest.ofFields q.kind _ with
        | error faults => exact ⟨.error _, hs⟩
        | ok r =>
          dsimp only
          rw [hset]
          exact ⟨.ok ⟨hq.content⟩, hs⟩

theorem askStep (h : s.Alike R s') {a a' : Ask τ} (ha : a.Alike R a') :
    StepsAlike R (s.askStep a) (s'.askStep a') := by
  obtain ⟨hj, hs⟩ := h.prepare ha
  simp only [Session.askStep]
  generalize s.prepare a = y at hj hs
  generalize s'.prepare a' = y' at hj hs
  obtain ⟨j, t⟩ := y
  obtain ⟨j', t'⟩ := y'
  obtain ⟨e, rfl, rfl⟩ | ⟨i, i', rfl, rfl, hi⟩ := hj.cases
  · exact ⟨.ended, hs⟩
  · exact ⟨.check hi, hs⟩

variable {j j' : Job τ}

theorem checkStep (h : s.Alike R s') (hj : j.Alike R j') :
    StepsAlike R (s.checkStep j) (s'.checkStep j') := by
  simp only [Session.checkStep, h.transport?_all_closed]
  split
  · exact ⟨.ended, h⟩
  · exact ⟨.register hj, h⟩

theorem wakeOf [Clock τ] (h : s.Alike R s') (k : Nat) : s'.wakeOf k = s.wakeOf k := by
  simp only [Session.wakeOf, h.now]
  obtain ⟨ht, ht'⟩ | ⟨t, t', ht, ht', ⟨-⟩⟩ := rel_cases (h.correlator.ticket? k)
  · rw [ht, ht']
  · rw [ht, ht']

theorem registerStep [Clock τ] (h : s.Alike R s') (hj : j.Alike R j') :
    StepsAlike R (s.registerStep j) (s'.registerStep j') := by
  simp only [Session.registerStep, h.now, hj.request, hj.timeout]
  obtain ⟨e, hr, hr'⟩ | ⟨⟨k, c⟩, ⟨k', c'⟩, hr, hr', rfl, hc⟩ :=
    (h.correlator.register s.now j.request.guid j.timeout false).cases
  · rw [hr, hr']
    exact ⟨.ended, h⟩
  · rw [hr, hr']
    exact ⟨.send hj, h.withCorrelator hc⟩

theorem sendStep [Clock τ] (h : s.Alike R s') (hj : j.Alike R j') (k : Nat) (o : Option Failure) :
    StepsAlike R (s.sendStep j k o) (s'.sendStep j' k o) := by
  simp only [Session.sendStep, hj.request]
  cases (Outbound.verdict j.request).encode with
  | error e => exact ⟨.ended, h⟩
  | ok f =>
    obtain ⟨ho, hw⟩ := h.write (R.frame_refl f) o
    dsimp only
    generalize s.write f o = y at ho hw
    generalize s'.write f o = y' at ho hw
    obtain ⟨a, t⟩ := y
    obtain ⟨a', t'⟩ := y'
    obtain rfl : a' = a := ho
    rcases a' with e | _
    · cases e with
      | closed c => exact ⟨.abandon, hw⟩
      | _ => exact ⟨.ended, hw⟩
    · dsimp only
      rw [hw.wakeOf]
      exact ⟨.await hj, hw.logged _ _⟩

theorem received (hj : j.Alike R j') (st : Stage) {a a' : Except Error VerdictResponse}
    (ha : Both R.response a a') : (received j st a).Alike R (received j' st a') := by
  obtain ⟨e, rfl, rfl⟩ | ⟨u, v, rfl, rfl, hv⟩ := ha.cases
  · exact .ended
  · obtain @⟨r, b, b', t, hb⟩ := id hj
    cases st with
    | final =>
      simp only [Session.received, R.classification hv]
      exact .ended
    | first =>
      obtain ⟨rfl, rfl⟩ | ⟨⟨b, l⟩, ⟨b', l'⟩, rfl, rfl, hb, rfl⟩ := rel_cases hb
      · simp only [Session.received, R.classification hv]
        exact .ended
      · simp only [Session.received, R.classification hv, R.verdict hv]
        split
        · obtain ⟨hx, hx'⟩ | ⟨x, x', hx, hx', hxx⟩ := rel_cases (R.demand hv)
          · rw [hx, hx']
            exact .ended
          · rw [hx, hx']
            exact .registerFinal hj hxx hb
        · exact .ended

theorem awaitSettled [Clock τ] (h : s.Alike R s') (hj : j.Alike R j') (st : Stage) (k : Nat) :
    Option.Rel (Phase.Alike R) (s.awaitSettled j st k) (s'.awaitSettled j' st k) := by
  simp only [Session.awaitSettled]
  obtain ⟨ht, ht'⟩ | ⟨t, t', ht, ht', htt⟩ := rel_cases (h.correlator.ticket? k)
  · rw [ht, ht']
    exact .none
  · rw [ht, ht']
    obtain ⟨ha, ha'⟩ | ⟨a, a', ha, ha', haa⟩ := rel_cases htt.answer
    · have hlong : Correlator.outlasts s'.now t' = Correlator.outlasts s.now t := by
        obtain ⟨-⟩ := htt
        rw [h.now]
        rfl
      simp only [ha, ha', hlong]
      split
      · exact .some .ended
      · exact .none
    · simp only [ha, ha']
      exact .some (received hj st haa)

theorem any_isPending (h : s.Alike R s') (k : Nat) :
    (s'.correlator.ticket? k).any (!·.outcome.isPending) =
      (s.correlator.ticket? k).any (!·.outcome.isPending) := by
  obtain ⟨ht, ht'⟩ | ⟨t, t', ht, ht', ⟨ho⟩⟩ := rel_cases (h.correlator.ticket? k)
  · rw [ht, ht']
  · rw [ht, ht', Option.any_some, Option.any_some, ho.isPending]

theorem expireStep (h : s.Alike R s') (hj : j.Alike R j') (st : Stage) (k : Nat) :
    StepsAlike R (s.expireStep j st k) (s'.expireStep j' st k) := by
  have hs := h.withCorrelator (h.correlator.forget k)
  simp only [Session.expireStep]
  obtain ⟨ht, ht'⟩ | ⟨t, t', ht, ht', htt⟩ := rel_cases (hs.correlator.ticket? k)
  · rw [ht, ht']
    exact ⟨.expire hj, hs⟩
  · rw [ht, ht']
    exact ⟨received hj st htt.lateAnswer, hs⟩

variable {x x' : Upload.Target} {b b' : Upload.Content} {l : Option Value}

theorem registerFinalStep [Clock τ] (h : s.Alike R s') (hj : j.Alike R j') (hx : R.target x x')
    (hb : R.content b b') :
    StepsAlike R (s.registerFinalStep j x b l) (s'.registerFinalStep j' x' b' l) := by
  simp only [Session.registerFinalStep, h.now, hj.request, hj.timeout]
  obtain ⟨e, hr, hr'⟩ | ⟨⟨k, c⟩, ⟨k', c'⟩, hr, hr', rfl, hc⟩ :=
    (h.correlator.register s.now j.request.guid j.timeout true).cases
  · rw [hr, hr']
    exact ⟨.ended, h⟩
  · rw [hr, hr']
    exact ⟨.upload hj hx hb, h.withCorrelator hc⟩

theorem uploadFailed (hj : j.Alike R j') (e : Error) :
    (uploadFailed j e).Alike R (uploadFailed j' e) := by
  cases e with
  | upload c =>
    simp only [Session.uploadFailed, hj.request]
    exact .abandon
  | _ => exact .ended

theorem uploadStep (h : s.Alike R s') (n : Nat) (hj : j.Alike R j') (k : Nat) (hx : R.target x x')
    (hb : R.content b b') :
    StepsAlike R (s.uploadStep n j k x b l) (s'.uploadStep n j' k x' b' l) := by
  have hst (o : Upload.Options) : Upload.start s.files x o b = Upload.start files x o b ∧
      Upload.start s'.files x' o b' = Upload.start files x' o b' := by
    rw [h.files_eq.1, h.files_eq.2]
    exact ⟨rfl, rfl⟩
  simp only [Session.uploadStep, hst, h.settings]
  obtain ⟨e, hu, hu'⟩ | ⟨p, p', hu, hu', hp⟩ := (R.start hx hb ⟨s.settings.uploadTimeout, l⟩).cases
  · rw [hu, hu']
    exact ⟨uploadFailed hj e, h⟩
  · rw [hu, hu']
    obtain ⟨hf, ht, hr, hcs, hps, hls⟩ := h
    exact ⟨.uploading hj hx hb, ⟨hf, ht, hr, hcs, List.rel_append hps (.cons ⟨rfl, hp⟩ .nil), hls⟩⟩

theorem uploadingStep (h : s.Alike R s') (hj : j.Alike R j') (k : Nat) (hx : R.target x x')
    (hb : R.content b b') (o : Http.Outcome) :
    StepsAlike R (s.uploadingStep j k x b o) (s'.uploadingStep j' k x' b' o) := by
  simp only [Session.uploadingStep]
  obtain ⟨e, hu, hu'⟩ | ⟨p, p', hu, hu', hl⟩ := (R.finish hx hb o).cases
  · rw [hu, hu']
    exact ⟨uploadFailed hj e, h⟩
  · rw [hu, hu']
    obtain ⟨hf, ht, hr, hcs, hps, hls⟩ := h
    exact ⟨.restart hj, ⟨hf, ht, hr, hcs, hps, List.rel_append hls (.cons hl .nil)⟩⟩

theorem restartStep [Clock τ] (h : s.Alike R s') (hj : j.Alike R j') (k : Nat) :
    StepsAlike R (s.restartStep j k) (s'.restartStep j' k) := by
  simp only [Session.restartStep, h.now, hj.timeout, hj.request]
  cases Correlator.deadline s.now j.timeout with
  | error e => exact ⟨.ended, h⟩
  | ok d =>
    have hs := h.withCorrelator (h.correlator.restart k d)
    dsimp only
    rw [hs.wakeOf]
    exact ⟨.await hj, hs.logged _ _⟩

theorem abandonStep (h : s.Alike R s') (g : Text) (e : Error) :
    StepsAlike R (s.abandonStep g e) (s'.abandonStep g e) :=
  ⟨.ended, h.withCorrelator (h.correlator.discard g)⟩

theorem reader (h : s.Alike R s') : s'.reader = s.reader := by
  obtain ⟨⟩ := h
  rfl

theorem frameStep (h : s.Alike R s') {f f' : Frame} (hf : f.Alike R f') :
    (s.frameStep f).Alike R (s'.frameStep f') := by
  obtain ⟨ho, hd⟩ := h.receiver.dispatch hf
  simp only [Session.frameStep, h.reader]
  generalize s.receiver.dispatch f = y at ho hd
  generalize s'.receiver.dispatch f' = y' at ho hd
  obtain ⟨a, r⟩ := y
  obtain ⟨a', r'⟩ := y'
  obtain rfl : a' = a := ho
  cases s.reader with
  | reading =>
    rcases a' with c | _
    · exact (h.withReceiver hd).withReader _
    · exact h.withReceiver hd
  | idle | failWaiter | failRequests | report | ended => exact h

theorem lostStep (h : s.Alike R s') (f : Failure) : (s.lostStep f).Alike R (s'.lostStep f) := by
  cases hrd : s.reader with
  | reading =>
    obtain ⟨hc, hc'⟩ | ⟨t, t', hc, hc', ht⟩ := rel_cases h.connection
    · simp only [Session.lostStep, h.reader, hrd, hc, hc']
      exact h
    · obtain ⟨he, ht⟩ := ht.fail f
      simp only [Session.lostStep, h.reader, hrd, hc, hc', he]
      exact (h.withConnection (.some ht)).withReader _
  | idle | failWaiter | failRequests | report | ended =>
    simp only [Session.lostStep, h.reader, hrd]
    exact h

theorem reportLoss (h : s.Alike R s') (c : ClosedCause) :
    (s.reportLoss c).Alike R (s'.reportLoss c) := by
  simp only [Session.reportLoss, h.state, h.shownUrl]
  split
  · exact (h.withState _).logged _ _
  · exact h

theorem readerStep (h : s.Alike R s') : s.readerStep.Alike R s'.readerStep := by
  simp only [Session.readerStep, h.reader]
  cases s.reader with
  | failWaiter e =>
    exact (h.withReceiver ((h.receiver.noteEnd e).settleWaiter _)).withReader _
  | failRequests c => exact (h.withReceiver (h.receiver.failRequests c)).withReader _
  | report c => exact (h.reportLoss c).withReader _
  | idle | reading | ended => exact h

end Alike

variable [Clock τ]

theorem Alike.moved (h : s.Alike R s') {p p' : Phase τ} (hp : p.Alike R p') (n : Nat) (sig : Signal) :
    StepsAlike R (s.moved n p sig) (s'.moved n p' sig) := by
  have hstay : StepsAlike R (p, s) (p', s') := ⟨hp, h⟩
  cases hp with
  | connect hx => cases sig <;> first | exact h.connectStep hx | exact hstay
  | opening hx => cases sig <;> first | exact h.openingStep hx _ | exact hstay
  | install hx => cases sig <;> first | exact h.installStep hx | exact hstay
  | announce hx => cases sig <;> first | exact h.announceStep hx | exact hstay
  | greet hx => cases sig <;> first | exact h.greetStep hx _ _ | exact hstay
  | @awaitAuth w k =>
    cases sig with
    | go =>
      simp only [Session.moved, h.receiver.waiters]
      exact h.authSettled .awaitAuth _
    | struck =>
      cases k with
      | none => exact hstay
      | some k =>
        simp only [Session.moved, h.now, h.receiver.waiters]
        split
        · exact hstay
        · exact ⟨.giveUp, h⟩
    | opened | written | answered => cases k <;> exact hstay
  | giveUp => cases sig <;> first | exact h.giveUpStep | exact hstay
  | enter => cases sig <;> first | exact h.enterStep _ | exact hstay
  | leave => cases sig <;> first | exact h.leaveStep _ | exact hstay
  | ask ha => cases sig <;> first | exact h.askStep ha | exact hstay
  | check hj => cases sig <;> first | exact h.checkStep hj | exact hstay
  | register hj => cases sig <;> first | exact h.registerStep hj | exact hstay
  | send hj => cases sig <;> first | exact h.sendStep hj _ _ | exact hstay
  | @await j j' st k w hj =>
    cases sig with
    | go =>
      obtain ⟨ha, ha'⟩ | ⟨q, q', ha, ha', hq⟩ := rel_cases (h.awaitSettled hj st k)
      · simp only [Session.moved, ha, ha']
        exact hstay
      · simp only [Session.moved, ha, ha']
        exact ⟨hq, h⟩
    | struck =>
      simp only [Session.moved, h.now, h.any_isPending]
      split
      · exact hstay
      · exact ⟨.expire hj, h⟩
    | opened | written | answered => exact hstay
  | expire hj => cases sig <;> first | exact h.expireStep hj _ _ | exact hstay
  | registerFinal hj hx hb => cases sig <;> first | exact h.registerFinalStep hj hx hb | exact hstay
  | upload hj hx hb => cases sig <;> first | exact h.uploadStep n hj _ hx hb | exact hstay
  | uploading hj hx hb => cases sig <;> first | exact h.uploadingStep hj _ hx hb _ | exact hstay
  | restart hj => cases sig <;> first | exact h.restartStep hj _ | exact hstay
  | abandon => cases sig <;> first | exact h.abandonStep _ _ | exact hstay
  | close => cases sig <;> first | exact h.closeStep | exact hstay
  | failAll => cases sig <;> first | exact h.failAllStep _ _ | exact hstay
  | disconnect => cases sig <;> first | exact h.disconnectStep _ _ | exact hstay
  | join => cases sig <;> first | exact h.joinStep _ | exact hstay
  | ended => cases sig <;> exact hstay

theorem Alike.step (h : s.Alike R s') {e e' : Event τ} (he : e.Alike R e') :
    (s.step e).Alike R (s'.step e') := by
  cases he with
  | call hi =>
    refine h.withCallers (List.rel_append h.callers (.cons ?_ .nil))
    cases hi with
    | connect hx => exact .connect hx
    | ask ha => exact .ask ha
    | close => exact .close
  | @move n sig =>
    obtain ⟨hp, hp'⟩ | ⟨p, p', hp, hp', hpp⟩ := rel_cases (forall₂_getElem? h.callers n)
    · rw [step_move_of_none hp, step_move_of_none hp']
      exact h
    · obtain ⟨hq, hs⟩ := h.moved hpp n sig
      rw [step_move hp, step_move hp']
      exact hs.withCallers (forall₂_set h.callers hq n)
  | frame hf => exact h.frameStep hf
  | lost => exact h.lostStep _
  | reader => exact h.readerStep
  | clock =>
    simp only [Session.step, h.now]
    split
    · obtain ⟨hf, ht, hr, hcs, hps, hls⟩ := h
      exact ⟨hf, ht, hr, hcs, hps, hls⟩
    · exact h

/-- Runs with the same events, up to what counts as the same, keep two sessions alike. -/
theorem Alike.run (h : s.Alike R s') {es es' : List (Event τ)}
    (hes : List.Forall₂ (Event.Alike R) es es') : (s.run es).Alike R (s'.run es') := by
  induction hes generalizing s s' with
  | nil => exact h
  | cons he _ ih => exact ih (h.step he)

omit [Clock τ] in
theorem Alike.ended_iff (h : s.Alike R s') (n : Nat) (r : Except Error (Option Classification)) :
    s'.callers[n]? = some (.ended r) ↔ s.callers[n]? = some (.ended r) := by
  obtain ⟨hp, hp'⟩ | ⟨p, p', hp, hp', hpp⟩ := rel_cases (forall₂_getElem? h.callers n)
  · rw [hp, hp']
  · rw [hp, hp', Option.some_inj, Option.some_inj]
    constructor <;> (rintro rfl; cases hpp; rfl)

omit [Clock τ] in
theorem Alike.puts (h : s.Alike R s') :
    List.Forall₂ (fun p q ↦ q.1 = p.1 ∧ R.put p.2 q.2) s.puts s'.puts := by
  obtain ⟨hf, ht, hr, hcs, hps, hls⟩ := h
  exact hps

omit [Clock τ] in
theorem Alike.log (h : s.Alike R s') : List.Forall₂ R.line s.log s'.log := by
  obtain ⟨hf, ht, hr, hcs, hps, hls⟩ := h
  exact hls

omit [Clock τ] in
/-- What differs, if what counts as the same differs. -/
theorem Alike.eq_with (h : s.Alike R s') : s' = { s with
    connection := s'.connection, receiver := s'.receiver, callers := s'.callers, puts := s'.puts,
    log := s'.log } := by
  obtain ⟨⟩ := h
  rfl

omit [Clock τ] in
theorem Phase.Alike.frame? {p p' : Phase τ} (h : p.Alike R p') :
    Option.Rel R.frame p.frame? p'.frame? := by
  cases h with
  | greet hx =>
    simp only [Phase.frame?]
    obtain ⟨e, hg, hg'⟩ | ⟨f, f', hg, hg', hf⟩ := (R.greeting hx).cases
    · rw [hg, hg']
      exact .none
    · rw [hg, hg']
      exact .some hf
  | send hj =>
    simp only [Phase.frame?, hj.request]
    exact rel_refl R.frame_refl _
  | _ => exact .none

omit [Clock τ] in
theorem Alike.accepts (h : s.Alike R s') (o : Option Failure) : s'.accepts o = s.accepts o := by
  simp only [Session.accepts]
  obtain ⟨hc, hc'⟩ | ⟨t, t', hc, hc', ⟨-⟩⟩ := rel_cases h.connection
  · rw [hc, hc']
  · rw [hc, hc']
    rfl

def WritesAlike (R : Likeness files) (x y : Nat × Text) : Prop := y.1 = x.1 ∧ R.frame x.2 y.2

omit [Clock τ] in
theorem Alike.takes? (h : s.Alike R s') {e e' : Event τ} (he : e.Alike R e') :
    Option.Rel (WritesAlike R) (s.takes? e) (s'.takes? e') := by
  cases he with
  | @move n sig =>
    cases sig with
    | written o =>
      simp only [Session.takes?, h.accepts]
      split
      · obtain ⟨hp, hp'⟩ | ⟨p, p', hp, hp', hpp⟩ := rel_cases (forall₂_getElem? h.callers n)
        · rw [hp, hp']
          exact .none
        · rw [hp, hp', Option.bind_some, Option.bind_some]
          obtain ⟨hf, hf'⟩ | ⟨f, f', hf, hf', hff⟩ := rel_cases hpp.frame?
          · rw [hf, hf']
            exact .none
          · rw [hf, hf']
            exact .some ⟨rfl, hff⟩
      · exact .none
    | go | opened | answered | struck => exact .none
  | _ => exact .none

theorem Alike.wire (h : s.Alike R s') {es es' : List (Event τ)}
    (hes : List.Forall₂ (Event.Alike R) es es') :
    List.Forall₂ (WritesAlike R) (wire s es) (wire s' es') := by
  induction hes generalizing s s' with
  | nil => exact .nil
  | cons he _ ih =>
    refine List.rel_append ?_ (ih (h.step he))
    obtain ⟨ht, ht'⟩ | ⟨x, y, ht, ht', hxy⟩ := rel_cases (h.takes? he)
    · rw [ht, ht']
      exact .nil
    · rw [ht, ht']
      exact .cons hxy .nil

end VerdictClient.Session
