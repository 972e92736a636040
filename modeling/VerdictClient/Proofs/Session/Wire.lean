import VerdictClient.Proofs.Json.Reading
import VerdictClient.Proofs.Session.Connection
import VerdictClient.Session.Schedule

namespace VerdictClient.Session

variable {τ : Type}

def accepts (o : Option Failure) (s : Session τ) : Bool := o.isNone && s.connection.any (!·.closed)

/-- The frame that the connection takes with an event, and the number of the caller that writes it. -/
def takes? (s : Session τ) : Event τ → Option (Nat × Text)
  | .move n (.written o) =>
    if s.accepts o then ((s.callers[n]?).bind Phase.frame?).map (n, ·) else none
  | _ => none

def taken (s : Session τ) : List Text := (s.connection.map Transport.taken).getD []

variable {s s' : Session τ} {n m : Nat} {p p' : Phase τ} {sig : Signal} {e : Event τ}
variable {f : Text} {o : Option Failure} {x : Value} {j : Job τ}

theorem Phase.frame?_cases (h : p.frame? = some f) :
    (∃ x w, p = .greet x w ∧ greeting x = .ok f) ∨
      ∃ j k, p = .send j k ∧ (Outbound.verdict j.request).encode = .ok f := by
  cases p with
  | greet x w => exact .inl ⟨x, w, rfl, eq_ok_of_toOption h⟩
  | send j k => exact .inr ⟨j, k, rfl, eq_ok_of_toOption h⟩
  | _ => cases h

theorem authOfFields_token (x : Value) : authOfFields [("token", x)] =
    match Field.text x with
    | .ok t => .ok (.auth t)
    | .error fault => .error [⟨"token", fault⟩] := by
  have hkind : kindField OutboundKind.auth.name [("token", x)] = .ok () := rfl
  have htoken : Field.required "token" Field.text [("token", x)] =
      (Field.text x).mapError (⟨"token", ·⟩) := rfl
  simp only [authOfFields, hkind, htoken]
  cases Field.text x <;> rfl

/-- A token that is presented is a text, or octets that spell one. -/
theorem exists_of_greeting (h : greeting x = .ok f) :
    ∃ t, Field.text x = .ok t ∧ (Outbound.auth t).encode = .ok f := by
  unfold greeting at h
  rw [authOfFields_token] at h
  cases ht : Field.text x with
  | error e =>
    rw [ht] at h
    cases h
  | ok t =>
    rw [ht] at h
    refine ⟨t, rfl, ?_⟩
    have hg : (Outbound.auth t).encode.mapError Error.unencodable = .ok f := h
    cases he : (Outbound.auth t).encode with
    | error e =>
      rw [he] at hg
      cases hg
    | ok g =>
      rw [he] at hg
      exact congrArg _ (Except.ok.inj hg)

theorem taken_write {r : Except Error Unit} (h : s.write f o = (r, s')) :
    s'.taken = s.taken ++ if s.accepts o then [f] else [] := by
  unfold write at h
  cases hc : s.connection with
  | none =>
    rw [hc] at h
    cases h
    simp [accepts, hc]
  | some t =>
    simp only [hc, Transport.send, Transport.write, Transport.fail] at h
    cases ht : t.closed with
    | true =>
      simp only [ht, if_true] at h
      cases h
      simp [accepts, taken, hc, ht]
    | false =>
      cases o with
      | none =>
        simp only [ht] at h
        cases h
        simp [accepts, taken, hc, ht]
      | some fault =>
        simp only [ht] at h
        cases h
        cases fault.endsConnection <;> simp [accepts, taken, hc]

theorem accepts_of_write (h : s.write f o = (.ok (), s')) : s.accepts o = true := by
  unfold write at h
  cases hc : s.connection with
  | none =>
    rw [hc] at h
    cases h
  | some t =>
    simp only [hc, Transport.send, Transport.write] at h
    cases ht : t.closed with
    | true =>
      simp only [ht, if_true] at h
      cases h
    | false =>
      cases o with
      | none => simp [accepts, hc, ht]
      | some fault =>
        simp only [ht] at h
        cases h

theorem taken_closedBy (s : Session τ) (r : Error) : (s.closedBy r).taken = s.taken := by
  unfold taken
  rw [(s.closedBy_frame r).1]

theorem taken_closeConnection (s : Session τ) : s.closeConnection.taken = s.taken := by
  unfold taken closeConnection
  cases s.connection with
  | none => rfl
  | some t =>
    simp only [Option.map_some, Option.getD_some, Transport.close]
    split <;> rfl

theorem takes?_written (hp : s.callers[n]? = some p) (o : Option Failure) :
    s.takes? (.move n (.written o)) = if s.accepts o then p.frame?.map (n, ·) else none := by
  simp only [takes?, hp, Option.bind_some]

theorem toList_takes?_written (hp : s.callers[n]? = some p) (o : Option Failure) :
    ((s.takes? (.move n (.written o))).map Prod.snd).toList =
      if s.accepts o then p.frame?.toList else [] := by
  rw [takes?_written hp]
  split
  · cases p.frame? <;> rfl
  · rfl

theorem takes?_of_frame?_none (hp : s.callers[n]? = some p) (hf : p.frame? = none) (sig : Signal) :
    s.takes? (.move n sig) = none := by
  cases sig with
  | written o => simp [takes?_written hp, hf]
  | go | opened | answered | struck => rfl

theorem exists_of_takes? (h : s.takes? e = some (n, f)) : ∃ o p, e = .move n (.written o) ∧
    s.accepts o = true ∧ s.callers[n]? = some p ∧ p.frame? = some f := by
  cases e with
  | move m sig =>
    cases sig with
    | written o =>
      simp only [takes?] at h
      split at h
      · next ho =>
        obtain ⟨g, hg, he⟩ := Option.map_eq_some_iff.1 h
        obtain ⟨p, hp, hf⟩ := Option.bind_eq_some_iff.1 hg
        obtain ⟨rfl, rfl⟩ := Prod.mk.inj he
        exact ⟨o, p, rfl, ho, hp, hf⟩
      · cases h
    | go | opened | answered | struck => cases h
  | call | frame | lost | reader | clock => cases h

variable [Clock τ]

theorem taken_greetStep (s : Session τ) (x : Value) (w : Nat) (o : Option Failure) :
    (s.greetStep x w o).2.taken =
      s.taken ++ if s.accepts o then (Phase.greet x w : Phase τ).frame?.toList else [] := by
  unfold greetStep
  split
  · next h => simp [Phase.frame?, h, Except.toOption]
  · next f h =>
    have hf : (Phase.greet x w : Phase τ).frame? = some f := by simp [Phase.frame?, h, Except.toOption]
    rw [hf, Option.toList_some]
    split
    · next hw => rw [taken_closedBy, taken_write hw]
    · next hw => exact taken_write hw

theorem taken_sendStep (s : Session τ) (j : Job τ) (k : Nat) (o : Option Failure) :
    (s.sendStep j k o).2.taken =
      s.taken ++ if s.accepts o then (Phase.send j k).frame?.toList else [] := by
  unfold sendStep
  split
  · next h => simp [Phase.frame?, h, Except.toOption]
  · next f h =>
    have hf : (Phase.send j k).frame? = some f := by simp [Phase.frame?, h, Except.toOption]
    rw [hf, Option.toList_some]
    split
    · next hw => exact taken_write hw
    · next hw => exact taken_write hw
    · next r s' hw =>
      have hlog : (s'.logged .debug ("Sent " ++ j.request.subject.kind.name ++ " " ++
        j.request.guid)).taken = s'.taken := rfl
      exact hlog.trans (taken_write hw)

theorem Advance.taken (h : Advance n s p sig p' s') (hp : ∀ j k, p ≠ .send j k) :
    s'.taken = s.taken := by
  cases h with
  | breakOff | breakClosed | written => exact absurd rfl (hp _ _)
  | _ => rfl

theorem Manage.taken (h : Manage s p sig p' s') (hp : ∀ x w, p ≠ .greet x w) :
    s'.taken = s.taken ∨ s'.taken = [] ∧ ∃ x, p = .opening x := by
  cases h with
  | opened ho =>
    refine .inr ⟨?_, _, rfl⟩
    unfold Transport.openResult at ho
    split at ho
    · cases ho
      rfl
    · split at ho <;> cases ho
  | failOpening | dropped | cancelled => exact .inl (s.taken_closedBy _)
  | failGreeting | greet => exact absurd rfl (hp _ _)
  | refused | refuseEntry =>
    obtain ⟨st, hs⟩ := s.failConnecting_eq
    rw [hs]
    exact .inl rfl
  | giveUp =>
    obtain ⟨st, hs⟩ := (s.withReceiver s.receiver.cancelAuth).failConnecting_eq
    rw [hs]
    exact .inl rfl
  | leave => exact .inl s.taken_closeConnection
  | disconnect =>
    split
    · exact .inl s.taken_closeConnection
    · exact .inl rfl
  | join => split <;> exact .inl rfl
  | _ => exact .inl rfl

theorem taken_moved (n : Nat) (s : Session τ) (sig : Signal) (hg : ∀ x w, p ≠ .greet x w)
    (hs : ∀ j k, p ≠ .send j k) : (s.moved n p sig).2.taken = s.taken ∨
      (s.moved n p sig).2.taken = [] ∧ ∃ x, p = .opening x := by
  by_cases ha : p.IsAsk
  · left
    by_cases ht : p.Takes sig
    · exact (advance_moved n s ha ht).taken hs
    · rw [moved_of_not_takes n s ha ht]
  · exact (manage_moved n s sig ha).taken hg

/-- What the connection takes as a caller moves on, unless the caller opens it. -/
theorem taken_move (hp : s.callers[n]? = some p) (sig : Signal) :
    (s.step (.move n sig)).taken = s.taken ++ ((s.takes? (.move n sig)).map Prod.snd).toList ∨
      (s.step (.move n sig)).taken = [] ∧ ∃ x, p = .opening x := by
  have hstep : (s.step (.move n sig)).taken = (s.moved n p sig).2.taken := by
    rw [step_move hp]
    rfl
  have hnone (h : s.takes? (.move n sig) = none) (ht : (s.moved n p sig).2.taken = s.taken) :
      (s.moved n p sig).2.taken = s.taken ++ ((s.takes? (.move n sig)).map Prod.snd).toList := by
    rw [h, ht]
    exact (List.append_nil _).symm
  rw [hstep]
  cases p with
  | greet x w =>
    left
    cases sig with
    | written o =>
      rw [toList_takes?_written hp]
      exact taken_greetStep s x w o
    | go | opened | answered | struck => exact hnone rfl rfl
  | send j k =>
    left
    cases sig with
    | written o =>
      rw [toList_takes?_written hp]
      exact taken_sendStep s j k o
    | go | opened | answered | struck => exact hnone rfl rfl
  | _ =>
    have ht := takes?_of_frame?_none hp rfl sig
    exact (taken_moved n s sig (by simp) (by simp)).imp (hnone ht) id

theorem taken_step (s : Session τ) (e : Event τ) :
    (s.step e).taken = s.taken ++ ((s.takes? e).map Prod.snd).toList ∨
      (s.step e).taken = [] ∧ ∃ n x sig, e = .move n sig ∧ s.callers[n]? = some (.opening x) := by
  have hsame (he : s.takes? e = none) (h : (s.step e).taken = s.taken) :
      (s.step e).taken = s.taken ++ ((s.takes? e).map Prod.snd).toList := by
    rw [he, h]
    exact (List.append_nil _).symm
  have hconn (h : (s.step e).connection = s.connection) : (s.step e).taken = s.taken := by
    unfold taken
    rw [h]
  by_cases hm : ∃ n sig, e = .move n sig
  · obtain ⟨n, sig, rfl⟩ := hm
    cases hp : s.callers[n]? with
    | none =>
      refine .inl (hsame ?_ (by rw [step_move_of_none hp]))
      cases sig with
      | written o => simp [takes?, hp]
      | go | opened | answered | struck => rfl
    | some p =>
      refine (taken_move hp sig).imp id fun ⟨h, x, hx⟩ ↦ ⟨h, n, x, sig, rfl, ?_⟩
      rw [hp, hx]
  · have hnone : s.takes? e = none := by
      cases e with
      | move n sig => exact absurd ⟨n, sig, rfl⟩ hm
      | call | frame | lost | reader | clock => rfl
    refine .inl (hsame hnone ?_)
    obtain h | ⟨n, p, sig, rfl, -⟩ | ⟨x, rfl, hr⟩ := s.connection_step e
    · exact hconn h
    · exact absurd ⟨n, sig, rfl⟩ hm
    · simp only [step, lostStep, hr]
      cases hc : s.connection with
      | none => rfl
      | some t =>
        simp only [taken, hc, Option.map_some, Option.getD_some, Transport.fail]
        split <;> rfl

theorem Advance.puts (h : Advance n s p sig p' s') : s'.puts = s.puts ∨
    ∃ j k x b l put, p = .upload j k x b l ∧
      Upload.start s.files x ⟨s.settings.uploadTimeout, l⟩ b = .ok put ∧
      s'.puts = s.puts ++ [(n, put)] := by
  cases h with
  | upload h => exact .inr ⟨_, _, _, _, _, _, rfl, h, rfl⟩
  | breakOff _ hw | breakClosed _ hw | written _ hw =>
    obtain ⟨t, rfl⟩ := write_eq hw
    exact .inl rfl
  | _ => exact .inl rfl

theorem puts_step (s : Session τ) (e : Event τ) : (s.step e).puts = s.puts ∨
    ∃ m j k x b l put, s.callers[m]? = some (.upload j k x b l) ∧
      Upload.start s.files x ⟨s.settings.uploadTimeout, l⟩ b = .ok put ∧
      (s.step e).puts = s.puts ++ [(m, put)] := by
  by_cases hm : ∃ m sig, e = .move m sig
  · obtain ⟨m, sig, rfl⟩ := hm
    cases hp : s.callers[m]? with
    | none => exact .inl (by rw [step_move_of_none hp])
    | some p =>
      have hputs : (s.step (.move m sig)).puts = (s.moved m p sig).2.puts := by rw [step_move hp]
      rw [hputs]
      by_cases ha : p.IsAsk
      · by_cases ht : p.Takes sig
        · obtain h | ⟨j, k, x, b, l, put, rfl, hst, h⟩ := (advance_moved m s ha ht).puts
          · exact .inl h
          · exact .inr ⟨m, j, k, x, b, l, put, hp, hst, h⟩
        · exact .inl (by rw [moved_of_not_takes m s ha ht])
      · obtain ⟨st, id, t, b, r, rd, os, ls, hs⟩ := (manage_moved m s sig ha).eq_with
        exact .inl (by rw [hs])
  · obtain ⟨st, t, r, rd, cs, moment, ls, hs⟩ :=
      step_eq_with (s := s) fun m sig he ↦ hm ⟨m, sig, he⟩
    exact .inl (by rw [hs])

variable {es : List (Event τ)}

/-- The frames that the connection takes in a run, each with the number of the caller that writes it. -/
def wire (s : Session τ) (es : List (Event τ)) : List (Nat × Text) := observed takes? s es

theorem wire_concat (s : Session τ) (es : List (Event τ)) (e : Event τ) :
    wire s (es ++ [e]) = wire s es ++ ((s.run es).takes? e).toList := observed_concat ..

theorem wire_concat_ne_nil (h : wire s es ≠ []) (e : Event τ) : wire s (es ++ [e]) ≠ [] := by
  rw [wire_concat]
  exact List.append_ne_nil_of_left_ne_nil h _

end VerdictClient.Session
