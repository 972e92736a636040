import VerdictClient.Proofs.Session.Reading

namespace VerdictClient.Session

variable {τ : Type} [Clock τ]

def Closes (s : Session τ) (e : Event τ) : Prop :=
  ∃ n, e = .move n .go ∧ s.callers[n]? = some .close

/-- Caller `n` ends its attempt with an error that tells neither of a closed connection nor of a
handshake that failed. -/
inductive Abandons (n : Nat) (s : Session τ) : Event τ → Prop
  | open {x o r} (hp : s.callers[n]? = some (.opening x))
      (h : Transport.openResult s.settings.url o = .error r) (hr : ∀ c, r ≠ .closed c) :
      Abandons n s (.move n (.opened o))
  | present {x w o r} (hp : s.callers[n]? = some (.greet x w)) (h : greeting x = .error r) :
      Abandons n s (.move n (.written o))
  | write {x w o f r} (hp : s.callers[n]? = some (.greet x w)) (h : greeting x = .ok f)
      (hw : (s.write f o).1 = .error r) (hr : ∀ c, r ≠ .closed c) :
      Abandons n s (.move n (.written o))
  | wait {w k r} (hp : s.callers[n]? = some (.awaitAuth w k))
      (h : s.receiver.waiters.getD w .pending = .pending) (ha : s.patience = .error r) :
      Abandons n s (.move n .go)

variable {s s' : Session τ} {n m : Nat} {p p' : Phase τ} {sig : Signal} {e : Event τ}

theorem Closes.state (h : Closes s e) : (s.step e).state = .closed := by
  obtain ⟨n, rfl, hp⟩ := h
  rw [step_move hp]
  rfl

theorem closed_of_closes {es : List (Event τ)} (h : Occurs Closes s es) :
    (s.run es).state = .closed := by
  induction es using List.reverseRecOn with
  | nil => exact absurd h not_occurs_nil
  | append_singleton es e ih =>
    rw [run_concat]
    obtain h | h := occurs_concat.1 h
    · exact closed_step (ih h) e
    · exact h.state

omit [Clock τ] in
theorem state_closedBy_of_ne {r : Error} (hr : ∀ c, r ≠ .closed c) : s.closedBy r = s := by
  cases r with
  | closed c => exact absurd rfl (hr c)
  | _ => rfl

omit [Clock τ] in
theorem write_fst {f : Text} {o : Option Failure} {r : Except Error Unit}
    (h : (s.write f o).1 = r) : ∃ t, s.write f o = (r, { s with connection := t }) := by
  have hw : s.write f o = (r, (s.write f o).2) := Prod.ext h rfl
  obtain ⟨t, ht⟩ := write_eq hw
  exact ⟨t, ht ▸ hw⟩

theorem Abandons.moved (h : Abandons n s e) : ∃ p sig r t, e = .move n sig ∧
    s.callers[n]? = some p ∧ p.IsConnecting ∧
      s.moved n p sig = (.ended (.error r), { s with connection := t }) := by
  cases h with
  | @«open» x o r hp h hr =>
    refine ⟨_, _, r, s.connection, rfl, hp, trivial, ?_⟩
    simp only [Session.moved, openingStep, h, state_closedBy_of_ne hr]
  | @present x w o r hp h =>
    refine ⟨_, _, r, s.connection, rfl, hp, trivial, ?_⟩
    simp only [Session.moved, greetStep, h]
  | @write x w o f r hp h hw hr =>
    obtain ⟨t, ht⟩ := write_fst hw
    refine ⟨_, _, r, t, rfl, hp, trivial, ?_⟩
    simp only [Session.moved, greetStep, h, ht, state_closedBy_of_ne hr]
  | @wait w k r hp h ha =>
    refine ⟨_, _, r, s.connection, rfl, hp, trivial, ?_⟩
    simp only [Session.moved, authSettled, h, ha, Option.getD_some]

theorem Abandons.step (h : Abandons n s e) : (s.step e).state = s.state ∧
    ∃ r, (s.step e).callers[n]? = some (.ended (.error r)) := by
  obtain ⟨p, sig, r, t, rfl, hp, -, hm⟩ := h.moved
  refine ⟨by rw [step_move hp, hm], r, ?_⟩
  rw [caller_move hp, hm]

/-- How the session stands with the caller that attempts to connect. -/
def Phase.Attempted (st : SessionState) (closed abandoned : Prop) : Phase τ → Prop
  | .leave _ => st = .closed
  | .ended (.ok _) => st = .authenticated ∨ st = .closed
  | .ended (.error _) => st = .failed ∨ st = .closed ∨ st = .connecting ∧ abandoned
  | _ => st = .connecting ∨ st = .closed ∧ closed

variable {st st' : SessionState} {C C' A A' : Prop}

omit [Clock τ] in
theorem Phase.Attempted.mono (h : p.Attempted st C A) (hC : C → C') (hA : A → A') :
    p.Attempted st C' A' := by
  cases p with
  | leave => exact h
  | ended r =>
    cases r with
    | ok => exact h
    | error => exact h.imp id (Or.imp id (And.imp id hA))
  | _ => exact h.imp id (And.imp id hC)

omit [Clock τ] in
theorem Phase.Attempted.close (p : Phase τ) (hC : C) : p.Attempted .closed C A := by
  cases p with
  | leave => rfl
  | ended r =>
    cases r with
    | ok => exact .inr rfl
    | error => exact .inr (.inl rfl)
  | _ => exact .inr ⟨rfl, hC⟩

omit [Clock τ] in
theorem Phase.Attempted.state_of_isConnecting (h : p.Attempted st C A) (hc : p.IsConnecting) :
    st = .connecting ∨ st = .closed ∧ C := by
  cases p with
  | opening | install | announce | greet | awaitAuth | giveUp | enter => exact h
  | _ => exact hc.elim

omit [Clock τ] in
theorem state_failConnecting (h : s.state = .connecting ∨ s.state = .closed ∧ C) :
    s.failConnecting.state = .failed ∨ s.failConnecting.state = .closed := by
  unfold failConnecting
  obtain h | ⟨h, -⟩ := h <;> simp [h]

omit [Clock τ] in
theorem attempted_closedBy {r : Error} (h : s.state = .connecting ∨ s.state = .closed ∧ C)
    (hA : (∀ c, r ≠ .closed c) → A) :
    (Phase.ended (.error r) : Phase τ).Attempted (s.closedBy r).state C A := by
  by_cases hr : ∃ c, r = .closed c
  · obtain ⟨c, rfl⟩ := hr
    exact .inr (.inl rfl)
  · have hne : ∀ c, r ≠ .closed c := not_exists.1 hr
    rw [state_closedBy_of_ne hne]
    obtain h | ⟨h, -⟩ := h
    · exact .inr (.inr ⟨h, hA hne⟩)
    · exact .inr (.inl h)

theorem Manage.attempted (h : Manage s p sig p' s') (hp : s.callers[n]? = some p)
    (ht : ∀ o ∈ s.receiver.waiters, o.IsTold) (ha : p.IsAttempt) (hst : p.Attempted s.state C A) :
    p'.Attempted s'.state C (A ∨ Abandons n s (.move n sig)) := by
  have habandon (hc : p.IsConnecting) {r : Error} (hab : Abandons n s (.move n sig)) :
      (Phase.ended (.error r) : Phase τ).Attempted s.state C (A ∨ Abandons n s (.move n sig)) := by
    obtain h | ⟨h, -⟩ := hst.state_of_isConnecting hc
    · exact .inr (.inr ⟨h, .inr hab⟩)
    · exact .inr (.inl h)
  cases h with
  | stay => exact hst.mono id .inl
  | opened | install | announce | answered | strike => exact hst
  | failOpening h => exact attempted_closedBy hst fun hr ↦ .inr (.open hp h hr)
  | installLate h => exact h
  | ungreetable h => exact habandon trivial (.present hp h)
  | failGreeting h hw =>
    have hab := Abandons.write (r := _) hp h (congrArg Prod.fst hw)
    obtain ⟨t, rfl⟩ := write_eq hw
    exact attempted_closedBy (s := { s with connection := t }) hst fun hr ↦ .inr (hab hr)
  | greet h hw =>
    obtain ⟨t, rfl⟩ := write_eq hw
    exact hst
  | balk h he => exact habandon trivial (.wait hp h he)
  | refused | refuseEntry => exact (state_failConnecting hst).imp id .inl
  | giveUp =>
    have hst' : (s.withReceiver s.receiver.cancelAuth).state = .connecting ∨
        (s.withReceiver s.receiver.cancelAuth).state = .closed ∧ C := hst
    exact (state_failConnecting hst').imp id .inl
  | @dropped w k r h hr =>
    have hmem : Future.failed r ∈ s.receiver.waiters := by
      rw [List.getD_eq_getElem?_getD] at h
      cases hw : s.receiver.waiters[w]? with
      | none => simp [hw] at h
      | some o =>
        obtain rfl : o = .failed r := by simpa [hw] using h
        exact List.mem_of_getElem? hw
    obtain ⟨c, rfl⟩ | ⟨c, rfl⟩ := ht _ hmem
    · exact absurd rfl (hr c)
    · exact .inr (.inl rfl)
  | cancelled => exact .inr (.inl rfl)
  | enter => exact .inl rfl
  | enterLate _ hne => exact (hst.resolve_left hne).1
  | leave => exact .inr (.inl hst)
  | connect | connectAgain | close | failAll | disconnect | join =>
    obtain hc | ⟨r, hr⟩ := ha
    · exact hc.elim
    · cases hr

/-- Steps of others change the state only to close the session, which is authenticated by then or was
closed by somebody. -/
theorem state_step_of_others {settings : Settings τ} {files : FileSystem} {es : List (Event τ)}
    (h : Occurs (Attempts n) (start settings files) es)
    (hp : ((start settings files).run es).callers[n]? = some p)
    (he : (∀ sig, e ≠ .move n sig) ∨ ∃ r, p = .ended r) :
    (((start settings files).run es).step e).state = ((start settings files).run es).state ∨
      (((start settings files).run es).step e).state = .closed ∧
        (Closes ((start settings files).run es) e ∨
          ((start settings files).run es).state = .authenticated) := by
  have hnot {m : Nat} {q : Phase τ} {sig : Signal}
      (hq : ((start settings files).run es).callers[m]? = some q) (hc : q.IsConnecting)
      (hm : e = .move m sig) : False := by
    obtain rfl : m = n := attempts_unique (attempts_of_isAttempt hq (.inl hc)) h
    obtain he | ⟨r, rfl⟩ := he
    · exact he sig hm
    · obtain rfl : q = .ended r := Option.some_inj.1 (hq.symm.trans hp)
      exact hc
  obtain hsame | hturn := status_step ((start settings files).run es) e
  · exact .inl (congrArg Status.state hsame)
  · generalize hx : (((start settings files).run es).step e).status = x at hturn
    have hs : (((start settings files).run es).step e).state = x.state := congrArg Status.state hx
    cases hturn with
    | connect _ hd => exact absurd hd (ne_disconnected_of_attempts h)
    | enter hq => exact (hnot hq trivial rfl).elim
    | fail hq hc => exact (hnot hq hc rfl).elim
    | breakOff hq hc => exact (hnot hq hc rfl).elim
    | close hq => exact .inr ⟨hs, .inl ⟨_, rfl, hq⟩⟩
    | lose _ ha => exact .inr ⟨hs, .inr ha⟩

omit [Clock τ] in
theorem Phase.Attempted.others (h : p.Attempted st C A) (hp : p.IsAttempt ∨ ∃ r, p = .ended r)
    (hst : st' = st ∨ st' = .closed ∧ (C' ∨ st = .authenticated)) (hC : C → C') :
    p.Attempted st' C' A := by
  obtain rfl | ⟨rfl, hc | ha⟩ := hst
  · exact h.mono hC id
  · exact .close p hc
  · -- An attempt that has led to an authenticated session has ended.
    cases p with
    | leave => rfl
    | ended r =>
      cases r with
      | ok => exact .inr rfl
      | error => exact .inr (.inl rfl)
    | _ =>
      obtain (hc | ⟨r, hr⟩) | ⟨r, hr⟩ := hp
      · obtain hs | ⟨hs, -⟩ := h.state_of_isConnecting hc <;> cases hs.symm.trans ha
      · cases hr
      · cases hr

variable {settings : Settings τ} {files : FileSystem} {es : List (Event τ)}

theorem attempted_run (h : Occurs (Attempts n) (start settings files) es) :
    ∃ p, ((start settings files).run es).callers[n]? = some p ∧
      p.Attempted ((start settings files).run es).state (Occurs Closes (start settings files) es)
        (Occurs (Abandons n) (start settings files) es) := by
  induction es using List.reverseRecOn with
  | nil => exact absurd h not_occurs_nil
  | append_singleton es e ih =>
    rw [run_concat]
    obtain h | h := occurs_concat.1 h
    · obtain ⟨p, hp, hst⟩ := ih h
      obtain ⟨q, hq, ha⟩ := caller_of_attempts h
      obtain rfl : q = p := Option.some_inj.1 (hq.symm.trans hp)
      have hothers (he : (∀ sig, e ≠ .move n sig) ∨ ∃ r, q = .ended r) :
          q.Attempted (((start settings files).run es).step e).state
            (Occurs Closes (start settings files) (es ++ [e]))
            (Occurs (Abandons n) (start settings files) (es ++ [e])) := by
        have hs := state_step_of_others h hp he
        refine (hst.others ha (hs.imp id (And.imp id (Or.imp_left ?_))) ?_).mono id ?_
        · exact fun hc ↦ occurs_concat.2 (.inr hc)
        · exact fun hc ↦ hc.concat e
        · exact fun hc ↦ hc.concat e
      obtain ⟨hp', he⟩ | ⟨sig, rfl, hp'⟩ := callers_step hp e
      · exact ⟨q, hp', hothers (.inl he)⟩
      · obtain ha | ⟨r, rfl⟩ := ha
        · refine ⟨_, hp', ?_⟩
          have hman := manage_moved n ((start settings files).run es) sig ha.not_isAsk
          have hnext := hman.attempted hp (waits_run settings files es).told ha hst
          rw [step_move hp]
          exact hnext.mono (fun hc ↦ hc.concat _) occurs_concat.2
        · refine ⟨.ended r, ?_, hothers (.inr ⟨r, rfl⟩)⟩
          exact ended_stays hp _
    · obtain ⟨x, hx⟩ := h.caller
      exact ⟨_, hx, .inl h.state⟩

/-- After the attempt was abandoned, only somebody who closes the session changes its state. -/
theorem abandoned_run (h : Occurs (Abandons n) (start settings files) es) :
    Occurs (Attempts n) (start settings files) es ∧
      (∃ r, ((start settings files).run es).callers[n]? = some (.ended (.error r))) ∧
      (¬Occurs Closes (start settings files) es →
        ((start settings files).run es).state = .connecting) := by
  induction es using List.reverseRecOn with
  | nil => exact absurd h not_occurs_nil
  | append_singleton es e ih =>
    rw [run_concat]
    obtain h | h := occurs_concat.1 h
    · obtain ⟨hat, ⟨r, hr⟩, hst⟩ := ih h
      refine ⟨hat.concat e, ⟨r, ended_stays hr e⟩, fun hcl ↦ ?_⟩
      have hc := hst fun h' ↦ hcl (h'.concat e)
      obtain hs | ⟨-, hcl' | ha⟩ := state_step_of_others hat hr (.inr ⟨_, rfl⟩) (e := e)
      · exact hs.trans hc
      · exact absurd (occurs_concat.2 (.inr hcl')) hcl
      · cases hc.symm.trans ha
    · obtain ⟨p, sig, -, -, rfl, hp, hpc, -⟩ := h.moved
      have hat := attempts_of_isAttempt hp (.inl hpc)
      obtain ⟨hs, hr⟩ := h.step
      refine ⟨hat.concat _, hr, fun hcl ↦ hs.trans ?_⟩
      obtain ⟨q, hq, hst⟩ := attempted_run hat
      obtain rfl : q = p := Option.some_inj.1 (hq.symm.trans hp)
      obtain hc | ⟨-, hcl'⟩ := hst.state_of_isConnecting hpc
      · exact hc
      · exact absurd (hcl'.concat _) hcl

/-- An attempt to connect that has ended has left the session authenticated or closed if it returned,
and failed or closed if it raised an error, with one exception: the session is connecting for ever if
the attempt was abandoned and nobody closes the session. -/
theorem connecting_ends (settings : Settings τ) (files : FileSystem) (es : List (Event τ)) (n : Nat)
    (r : Except Error (Option Classification)) (h : Occurs (Attempts n) (start settings files) es)
    (hn : ((start settings files).run es).callers[n]? = some (.ended r)) :
    (∀ v, r = .ok v → ((start settings files).run es).state = .authenticated ∨
      ((start settings files).run es).state = .closed) ∧
    (∀ x, r = .error x → ((start settings files).run es).state = .failed ∨
      ((start settings files).run es).state = .closed ∨
      ((start settings files).run es).state = .connecting) ∧
    (((start settings files).run es).state = .connecting ↔
      Occurs (Abandons n) (start settings files) es ∧ ¬Occurs Closes (start settings files) es) := by
  obtain ⟨p, hp, hst⟩ := attempted_run h
  obtain rfl : p = .ended r := Option.some_inj.1 (hp.symm.trans hn)
  refine ⟨?_, ?_, fun hc ↦ ⟨?_, fun hcl ↦ ?_⟩, fun ⟨ha, hcl⟩ ↦ (abandoned_run ha).2.2 hcl⟩
  · rintro v rfl
    exact hst
  · rintro x rfl
    exact hst.imp id (Or.imp id And.left)
  · cases r with
    | ok v =>
      obtain hs | hs := hst <;> cases hs.symm.trans hc
    | error x =>
      obtain hs | hs | ⟨-, ha⟩ := hst
      · cases hs.symm.trans hc
      · cases hs.symm.trans hc
      · exact ha
  · cases (closed_of_closes hcl).symm.trans hc

def Sample.speechless : List (Event Int) :=
  [.call (.connect (.int 5)), .move 0 .go, .move 0 (.opened none), .move 0 .go, .move 0 .go,
    .move 0 (.written none)]

theorem Sample.speechless_attempts :
    Occurs (Attempts 0) (start Sample.settings .empty) Sample.speechless :=
  ⟨[.call (.connect (.int 5))], .move 0 .go, _, rfl, rfl, rfl, _, rfl⟩

theorem Sample.speechless_ended : ∃ r : Error,
    ((start Sample.settings .empty).run Sample.speechless).callers[0]? = some (.ended (.error r)) :=
  ⟨_, rfl⟩

theorem connecting_ends_speechless :
    Occurs (Abandons 0) (start Sample.settings .empty) Sample.speechless ∧
      ¬Occurs Closes (start Sample.settings .empty) Sample.speechless := by
  obtain ⟨r, hr⟩ := Sample.speechless_ended
  exact (connecting_ends Sample.settings .empty Sample.speechless 0 _ Sample.speechless_attempts
    hr).2.2.1 rfl

theorem not_always_settled : ¬∀ (es : List (Event Int)) (n : Nat)
    (r : Except Error (Option Classification)),
    Occurs (Attempts n) (start Sample.settings .empty) es →
    ((start Sample.settings .empty).run es).callers[n]? = some (.ended r) →
    ((start Sample.settings .empty).run es).state ≠ .connecting := by
  intro h
  obtain ⟨r, hr⟩ := Sample.speechless_ended
  exact h Sample.speechless 0 _ Sample.speechless_attempts hr rfl

end VerdictClient.Session
