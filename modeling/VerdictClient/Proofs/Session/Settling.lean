import Mathlib.Algebra.GroupWithZero.Nat
import VerdictClient.Proofs.Session.Connection
import VerdictClient.Proofs.Session.Scene
import VerdictClient.Proofs.Session.Tickets

namespace VerdictClient.Session

variable {τ : Type} [Clock τ]

/-- The connection that a caller installs, or has installed, is there. -/
structure Equipped (s : Session τ) : Prop where
  installing : ∀ {n : Nat} {x : Value}, s.callers[n]? = some (.install x) → s.connection.isSome = true
  installed : s.installed = true → s.connection.isSome = true

variable {s s' : Session τ} {n : Nat} {p p' : Phase τ} {sig : Signal} {e : Event τ}

omit [Clock τ] in
theorem write_connection {f : Text} {o : Option Failure} {r : Except Error Unit}
    (hw : s.write f o = (r, s')) (h : s.connection.isSome = true) : s'.connection.isSome = true := by
  unfold write at hw
  split at hw
  · rw [← (Prod.mk.inj hw).2]
    exact h
  · rw [← (Prod.mk.inj hw).2]
    rfl

theorem Advance.keeps_connection (h : Advance n s p sig p' s') (hc : s.connection.isSome = true) :
    s'.connection.isSome = true := by
  cases h with
  | breakOff _ hw | breakClosed _ hw => exact write_connection hw hc
  | written _ hw =>
    have hs := write_connection hw hc
    exact hs
  | _ => exact hc

theorem Manage.keeps_connection (h : Manage s p sig p' s') (hc : s.connection.isSome = true) :
    s'.connection.isSome = true := by
  cases h with
  | opened => rfl
  | failOpening | dropped | cancelled => rw [(s.closedBy_frame _).1]; exact hc
  | failGreeting _ hw =>
    rw [(closedBy_frame _ _).1]
    exact write_connection hw hc
  | greet _ hw => exact write_connection hw hc
  | refused | refuseEntry => rw [s.failConnecting_frame.1]; exact hc
  | giveUp => rw [(failConnecting_frame _).1]; exact hc
  | leave => simpa [closeConnection] using hc
  | disconnect =>
    split
    · simpa [closeConnection] using hc
    · exact hc
  | join => split <;> exact hc
  | _ => exact hc

theorem connection_stays (hc : s.connection.isSome = true) (e : Event τ) :
    (s.step e).connection.isSome = true := by
  cases e with
  | move n sig =>
    cases hp : s.callers[n]? with
    | none => rwa [step_move_of_none hp]
    | some p =>
      obtain h | ⟨p', s', hadv | hman, h, -⟩ := move_cases hp sig <;> rw [h]
      · exact hc
      · exact hadv.keeps_connection hc
      · exact hman.keeps_connection hc
  | lost f =>
    simp only [step, lostStep]
    split
    · rfl
    · exact hc
  | call | frame | reader | clock =>
    obtain hsame | ⟨m, q, sig, he, -⟩ | ⟨f, he, -⟩ := s.connection_step _
    · rw [hsame]
      exact hc
    · cases he
    · cases he

theorem Equipped.step (h : Equipped s) (e : Event τ) : Equipped (s.step e) where
  installing := by
    intro n x hp'
    obtain hp | ⟨p, sig, s', rfl, hp, hman⟩ | ⟨i, hi⟩ := manage_step id (by simp) hp'
    · exact connection_stays (h.installing hp) e
    · cases hman with
      | stay => exact connection_stays (h.installing hp) _
      | opened ho => simp only [step_move hp, moved, openingStep, ho, Option.isSome_some]
    · cases i <;> cases hi
  installed := by
    intro hi
    obtain hsame | ⟨-, -, m, sig, x, rfl, hm, -⟩ := s.installed_step e
    · exact connection_stays (h.installed (hsame ▸ hi)) e
    · exact connection_stays (h.installing hm) _

theorem equipped_run (settings : Settings τ) (files : FileSystem) (es : List (Event τ)) :
    Equipped ((start settings files).run es) := by
  induction es using List.reverseRecOn with
  | nil => exact ⟨fun h ↦ by simp [start] at h, fun h ↦ by simp [start] at h⟩
  | append_singleton es e ih =>
    rw [run_concat]
    exact ih.step e

/-- How many steps a caller takes at most; the one with which reading begins stands for those of the
reader, too. -/
def Phase.left : Phase τ → Nat
  | .connect _ => 12
  | .opening _ => 11
  | .install _ => 10
  | .announce _ => 9
  | .greet _ _ => 4
  | .awaitAuth _ _ => 3
  | .enter _ => 2
  | .giveUp _ | .leave _ => 1
  | .ask _ => 12
  | .check _ => 11
  | .register _ => 10
  | .send _ _ => 9
  | .await _ .first _ _ => 8
  | .expire _ .first _ => 7
  | .registerFinal _ _ _ _ => 6
  | .upload _ _ _ _ _ => 5
  | .uploading _ _ _ _ => 4
  | .restart _ _ => 3
  | .await _ .final _ _ => 2
  | .expire _ .final _ | .abandon _ _ => 1
  | .close => 4
  | .failAll _ _ => 3
  | .disconnect _ _ => 2
  | .join _ => 1
  | .ended _ => 0

def Reader.left : Reader → Nat
  | .reading => 4
  | .failWaiter _ => 3
  | .failRequests _ => 2
  | .report _ => 1
  | .idle | .ended => 0

def left (s : Session τ) : Nat := s.reader.left + (s.callers.map Phase.left).sum

omit [Clock τ] in
theorem Phase.left_le (p : Phase τ) : p.left ≤ 12 := by
  cases p with
  | await j st k w => cases st <;> simp [left]
  | expire j st k => cases st <;> simp [left]
  | _ => simp [left]

theorem Reader.left_le (r : Reader) : r.left ≤ 4 := by
  cases r <;> simp [left]

omit [Clock τ] in
theorem left_le (s : Session τ) : s.left ≤ 4 + 12 * s.callers.length := by
  have hsum : ∀ ps : List (Phase τ), (ps.map Phase.left).sum ≤ 12 * ps.length := by
    intro ps
    induction ps with
    | nil => exact Nat.le_refl 0
    | cons p ps ih =>
      have hp := p.left_le
      rw [List.map_cons, List.sum_cons, List.length_cons]
      omega
  have hr := s.reader.left_le
  have hc := hsum s.callers
  unfold left
  omega

theorem sum_map_set {α : Type} (f : α → Nat) {l : List α} {n : Nat} {a : α} (h : l[n]? = some a)
    (b : α) : ((l.set n b).map f).sum + f a = (l.map f).sum + f b := by
  induction l generalizing n with
  | nil => cases h
  | cons c l ih =>
    cases n with
    | zero =>
      obtain rfl := Option.some_inj.1 h
      simp only [List.set_cons_zero, List.map_cons, List.sum_cons]
      omega
    | succ n =>
      have hl := ih h
      simp only [List.set_cons_succ, List.map_cons, List.sum_cons]
      omega

omit [Clock τ] in
theorem left_received_first (j : Job τ) (a : Except Error VerdictResponse) :
    (received j .first a).left ≤ 6 := by
  unfold received
  split
  · simp [Phase.left]
  · split
    · split
      · split <;> simp [Phase.left]
      · simp [Phase.left]
    · simp [Phase.left]

omit [Clock τ] in
theorem left_received_final (j : Job τ) (a : Except Error VerdictResponse) :
    (received j .final a).left = 0 := by
  unfold received
  split <;> rfl

omit [Clock τ] in
theorem left_received_lt (j : Job τ) (st : Stage) (k : Nat) (a : Except Error VerdictResponse) :
    (received j st a).left < (Phase.expire j st k : Phase τ).left := by
  cases st with
  | first => exact Nat.lt_succ_of_le (left_received_first j a)
  | final => rw [left_received_final]; exact Nat.zero_lt_one

omit [Clock τ] in
theorem left_expire_lt (j : Job τ) (st : Stage) (k : Nat) (w : τ) :
    (Phase.expire j st k : Phase τ).left < (Phase.await j st k w).left := by
  cases st <;> simp [Phase.left]

omit [Clock τ] in
theorem left_uploadFailed_le (j : Job τ) (r : Error) : (uploadFailed j r).left ≤ 1 := by
  cases r <;> simp [uploadFailed, Phase.left]

theorem Advance.left_lt (h : Advance n s p sig p' s') : p'.left < p.left ∨
    (∃ j st k w, p = .await j st k w ∧ (sig = .go ∧ s.awaitSettled j st k = none ∨ sig = .struck ∧
      (Clock.lt s.now w = true ∨ ∃ t, s.correlator.ticket? k = some t ∧ t.outcome ≠ .pending))) ∨
    ∃ j st k, p = .expire j st k ∧ s.correlator.ticket? k = none := by
  cases h with
  | linger h => exact .inr (.inl ⟨_, _, _, _, rfl, h⟩)
  | lose h => exact .inr (.inr ⟨_, _, _, rfl, h⟩)
  | settle => exact .inl (Nat.lt_trans (left_received_lt _ _ _ _) (left_expire_lt _ _ _ _))
  | balk => exact .inl (Nat.zero_lt_of_lt (left_expire_lt _ _ _ _))
  | strike => exact .inl (left_expire_lt _ _ _ _)
  | expire => exact .inl (left_received_lt _ _ _ _)
  | failUpload => exact .inl (Nat.lt_of_le_of_lt (left_uploadFailed_le _ _) (by simp [Phase.left]))
  | refuseUpload => exact .inl (Nat.lt_of_le_of_lt (left_uploadFailed_le _ _) (by simp [Phase.left]))
  | _ => exact .inl (by simp [Phase.left])

theorem Manage.left_lt (h : Manage s p sig p' s') :
    p' = p ∨ p'.left + s'.reader.left < p.left + s.reader.left := by
  cases h with
  | stay => exact .inl rfl
  | announce =>
    right
    simp only [Phase.left, Reader.left]
    omega
  | failOpening | dropped | cancelled =>
    right
    rw [(s.closedBy_frame _).2.2]
    simp [Phase.left]
  | failGreeting _ hw =>
    obtain ⟨t, rfl⟩ := write_eq hw
    right
    rw [(closedBy_frame _ _).2.2]
    simp [Phase.left]
  | greet _ hw =>
    obtain ⟨t, rfl⟩ := write_eq hw
    right
    simp [Phase.left]
  | refused | refuseEntry =>
    right
    rw [s.failConnecting_frame.2.2]
    simp [Phase.left]
  | giveUp =>
    right
    rw [(failConnecting_frame _).2.2]
    simp [Phase.left, withReceiver]
  | disconnect | join =>
    right
    split <;> simp [Phase.left, closeConnection, logged]
  | _ =>
    right
    simp [Phase.left, withReceiver, logged, closeConnection]

/-- What a session can come to from its start. -/
def Reached (s : Session τ) : Prop := ∃ settings files es, s = (start settings files).run es

theorem Reached.step (h : Reached s) (e : Event τ) : Reached (s.step e) := by
  obtain ⟨settings, files, es, rfl⟩ := h
  exact ⟨settings, files, es ++ [e], (run_concat _ es e).symm⟩

theorem Continues.reached (h : Continues s s') (hs : Reached s) : Reached s' :=
  h.induction hs fun _ hs ↦ hs.step _

theorem Reached.equipped (h : Reached s) : Equipped s := by
  obtain ⟨settings, files, es, rfl⟩ := h
  exact equipped_run settings files es

theorem Reached.attached (h : Reached s) : Attached s := by
  obtain ⟨settings, files, es, rfl⟩ := h
  exact attached_run settings files es

theorem Reached.ticket (h : Reached s) {j : Job τ} {st : Stage} {k : Nat}
    (hp : s.callers[n]? = some (.expire j st k)) : ∃ t, s.correlator.ticket? k = some t := by
  obtain ⟨settings, files, es, rfl⟩ := h
  obtain ⟨-, ⟨t, ht, -⟩, -⟩ := (ledger_run settings files es).held hp rfl
  exact ⟨t, ht⟩

namespace Scene

variable {x : Scene τ}

theorem signal?_wait (hw : p.isWait = true) (n : Nat) (x : Scene τ) :
    x.signal? n p = if x.held.contains n then none
      else if x.session.isSettled p || x.session.balks p then some .go
      else if x.isLate p && !x.waiting.contains n then some .struck else none := by
  cases p with
  | awaitAuth | await => rfl
  | _ => cases hw

theorem signal?_of_isWait (hw : p.isWait = true) (h : x.signal? n p = some sig) :
    sig = .go ∧ (x.session.isSettled p || x.session.balks p) = true ∨
      sig = .struck ∧ x.session.isSettled p = false ∧ x.isLate p = true := by
  rw [signal?_wait hw] at h
  split at h
  · cases h
  · split at h
    · next hset =>
      cases h
      exact .inl ⟨rfl, hset⟩
    · next hset =>
      split at h
      · next hlate =>
        cases h
        rw [Bool.and_eq_true] at hlate
        rw [Bool.or_eq_true, not_or, Bool.not_eq_true] at hset
        exact .inr ⟨rfl, hset.1, hlate.1⟩
      · cases h

theorem takes_of_signal? (ha : p.IsAsk) (h : x.signal? n p = some sig) : p.Takes sig := by
  cases p with
  | send => cases h; trivial
  | uploading => cases h
  | await =>
    obtain ⟨rfl, -⟩ | ⟨rfl, -⟩ := signal?_of_isWait rfl h
    · trivial
    · trivial
  | ask | check | register | expire | registerFinal | upload | restart | abandon => cases h; trivial
  | _ => exact ha.elim

theorem awaitSettled_ne_none {s : Session τ} {j : Job τ} {st : Stage} {k : Nat} {w : τ}
    (h : (s.isSettled (.await j st k w) || s.balks (.await j st k w)) = true) :
    s.awaitSettled j st k ≠ none := by
  intro hnone
  rw [Bool.or_eq_true] at h
  obtain hset | hbalks := h
  · obtain ⟨t, ht, ho⟩ := (Option.any_eq_true _ _).1 hset
    obtain ⟨hpend, -⟩ := awaitSettled_eq_none_iff.1 hnone t ht
    rw [hpend] at ho
    cases ho
  · obtain ⟨t, ht, hlong⟩ := (Option.any_eq_true _ _).1 hbalks
    obtain ⟨-, hshort⟩ := awaitSettled_eq_none_iff.1 hnone t ht
    cases hlong.symm.trans hshort

theorem left_moved_of_isAsk (ha : p.IsAsk) (hp : x.phase? n = some p)
    (h : x.signal? n p = some sig) (hr : Reached x.session) :
    (x.session.moved n p sig).1.left < p.left := by
  have hadv := advance_moved n x.session ha (takes_of_signal? ha h)
  obtain hlt | ⟨j, st, k, w, rfl, hlin⟩ | ⟨j, st, k, rfl, hnone⟩ := hadv.left_lt
  · exact hlt
  · -- It would wait on, but then the scene has no signal for it.
    exfalso
    obtain ⟨rfl, hset⟩ | ⟨rfl, hset, hlate⟩ := signal?_of_isWait rfl h
    · obtain ⟨-, hnone⟩ | ⟨hsig, -⟩ := hlin
      · exact awaitSettled_ne_none hset hnone
      · cases hsig
    · obtain ⟨hsig, -⟩ | ⟨-, hlt | ⟨t, ht, ho⟩⟩ := hlin
      · cases hsig
      · simp [isLate, Phase.wake?, hlt] at hlate
      · exact ho (Future.isPending_iff.1 (by simpa [isSettled, ht] using hset))
  · obtain ⟨t, ht⟩ := hr.ticket hp
    cases hnone.symm.trans ht

theorem moved_ne (ha : ¬p.IsAsk) (h : x.signal? n p = some sig) :
    (x.session.moved n p sig).1 ≠ p := by
  cases p with
  | connect t =>
    cases h
    simp only [moved, connectStep]
    split <;> simp
  | opening t =>
    obtain ⟨o, -, rfl⟩ := Option.map_eq_some_iff.1 h
    simp only [moved, openingStep]
    split <;> simp
  | install t =>
    cases h
    simp only [moved, installStep]
    split <;> simp
  | greet t w =>
    cases h
    simp only [moved, greetStep]
    split
    · simp
    · split
      · simp
      · simp
  | awaitAuth w k =>
    obtain ⟨rfl, hset⟩ | ⟨rfl, hset, hlate⟩ := signal?_of_isWait rfl h
    · have hrefused (hpend : x.session.receiver.waiters.getD w .pending = .pending) :
          ∃ e, x.session.patience = .error e := by
        simp only [isSettled, balks, hpend] at hset
        cases hpat : x.session.patience with
        | ok wake => rw [hpat] at hset; cases hset
        | error e => exact ⟨e, rfl⟩
      simp only [moved, authSettled]
      split
      · next hpend =>
        obtain ⟨e, he⟩ := hrefused hpend
        simp [he]
      · simp
      · simp
      · simp
      · simp
    · have hpend : (x.session.receiver.waiters.getD w .pending).isPending = true := by
        simpa [isSettled] using hset
      obtain ⟨wake, hwake, hlt⟩ := (Option.any_eq_true _ _).1 hlate
      obtain rfl : k = some wake := hwake
      have hlt : Clock.lt x.session.now wake = false := by simpa using hlt
      have hgive : x.session.moved n (.awaitAuth w (some wake)) .struck = (.giveUp w, x.session) :=
        if_neg (by rw [hlt, hpend]; decide)
      rw [hgive]
      simp
  | enter r =>
    cases h
    simp only [moved, enterStep]
    split
    · simp
    · split <;> simp
  | announce | giveUp | leave | close | failAll | disconnect | join =>
    cases h
    simp [moved, announceStep, giveUpStep, leaveStep, closeStep, failAllStep, disconnectStep, joinStep]
  | ended r => cases h
  | _ => exact absurd trivial ha

theorem left_move_lt (hp : x.phase? n = some p) (h : x.signal? n p = some sig)
    (hr : Reached x.session) : (x.session.step (.move n sig)).left < x.session.left := by
  have hsum := sum_map_set Phase.left hp (x.session.moved n p sig).1
  have hless : (x.session.moved n p sig).1.left + (x.session.moved n p sig).2.reader.left <
      p.left + x.session.reader.left := by
    by_cases ha : p.IsAsk
    · have hlt := left_moved_of_isAsk ha hp h hr
      have hadv := advance_moved n x.session ha (takes_of_signal? ha h)
      rw [hadv.frame.2.2]
      omega
    · obtain hsame | hlt := (manage_moved n x.session sig ha).left_lt
      · exact absurd hsame (moved_ne ha h)
      · exact hlt
  have hleft : (x.session.step (.move n sig)).left =
      (x.session.moved n p sig).2.reader.left +
        ((x.session.callers.set n (x.session.moved n p sig).1).map Phase.left).sum := by
    rw [step_move hp]
    rfl
  rw [hleft]
  unfold left
  omega

/-- Everything that happens by itself brings the end nearer. -/
theorem left_step_lt (h : x.event? = some e) (hr : Reached x.session) :
    (x.session.step e).left < x.session.left := by
  obtain ⟨rfl, hread⟩ | ⟨f, rfl, hread⟩ | ⟨n, p, sig, rfl, hp, hsig⟩ := event?_cases h
  · have hframe : (x.session.step .reader).callers = x.session.callers :=
      callers_step_of_not_move (by simp) (by simp)
    have hless : (x.session.step .reader).reader.left < x.session.reader.left := by
      obtain ⟨y, hread⟩ | ⟨y, hread⟩ | ⟨y, hread⟩ := hread <;>
        simp [step, readerStep, hread, Reader.left]
    unfold left
    rw [hframe]
    exact Nat.add_lt_add_right hless _
  · have hinst := hr.attached.reading (by rw [hread]; simp)
    obtain ⟨t, ht⟩ := Option.isSome_iff_exists.1 (hr.equipped.installed hinst)
    simp [left, step, lostStep, hread, ht, Reader.left]
  · exact left_move_lt hp hsig hr

/-- With steps enough, nothing happens by itself any more. -/
theorem event?_settle {fuel : Nat} (hr : Reached x.session) (hf : x.session.left ≤ fuel) :
    (x.settle fuel).event? = none := by
  -- The fuel covers what is left to do after every event.
  induction fuel generalizing x with
  | zero =>
    cases h : x.event? with
    | none => exact h
    | some e =>
      have hlt := left_step_lt h hr
      omega
  | succ fuel ih =>
    unfold settle
    split
    · next h => exact h
    · next e h =>
      have hlt := left_step_lt h hr
      apply ih
      · exact hr.step e
      · rw [session_after]
        omega

theorem event?_settled (hr : Reached x.session) : x.settled.event? = none := by
  have hle := x.session.left_le
  apply event?_settle hr
  omega

theorem event?_happen (hr : Reached x.session) (e : Event τ) : (x.happen e).event? = none :=
  event?_settled (hr.step e)

theorem signal?_of_quiet (h : x.event? = none) (hp : x.phase? n = some p) : x.signal? n p = none := by
  unfold event? at h
  split at h
  · cases h
  · cases h
  · cases h
  · cases h
  · have hlt : n < x.session.callers.length := (List.getElem?_eq_some_iff.1 hp).1
    have hn := List.findSome?_eq_none_iff.1 h n (List.mem_range.2 hlt)
    rw [hp, Option.bind_some, Option.map_eq_none_iff] at hn
    exact hn

end Scene

end VerdictClient.Session
