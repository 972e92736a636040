import VerdictClient.Proofs.Message.Writing
import VerdictClient.Proofs.Session.Authentication
import VerdictClient.Proofs.Session.Closing
import VerdictClient.Proofs.Session.Wire

namespace VerdictClient.Session

variable {τ : Type}

def Phase.IsSpent : Phase τ → Prop
  | .awaitAuth _ _ | .giveUp _ | .enter _ | .leave _ | .await _ _ _ _ | .expire _ _ _
  | .registerFinal _ _ _ _ | .upload _ _ _ _ _ | .uploading _ _ _ _ | .restart _ _ | .abandon _ _
  | .ended _ => True
  | _ => False

def Phase.token? : Phase τ → Option Value
  | .connect x | .opening x | .install x | .announce x | .greet x _ => some x
  | _ => none

def Phase.unsent? : Phase τ → Option (Job τ)
  | .check j | .register j | .send j _ => some j
  | _ => none

variable {s s' : Session τ} {n : Nat} {p p' : Phase τ} {sig : Signal} {e : Event τ}
variable {f : Text} {x : Value} {j : Job τ}

theorem Phase.not_isSpent_of_frame? (h : p.frame? = some f) : ¬p.IsSpent := by
  cases p with
  | greet | send => exact id
  | _ => cases h

theorem Phase.IsSpent.unsent? (h : p.IsSpent) : p.unsent? = none := by
  cases p with
  | check | register | send => exact h.elim
  | _ => rfl

theorem Phase.token?_of_isAsk (h : p.IsAsk) : p.token? = none := by
  cases p with
  | connect | opening | install | announce | greet => exact h.elim
  | _ => rfl

variable [Clock τ]

omit [Clock τ] in
theorem isSpent_received (j : Job τ) (st : Stage) (a : Except Error VerdictResponse) :
    (received j st a).IsSpent := by
  unfold received
  split
  · trivial
  · split
    · split
      · split <;> trivial
      · trivial
    · trivial

omit [Clock τ] in
theorem isSpent_uploadFailed (j : Job τ) (r : Error) : (uploadFailed j r).IsSpent := by
  cases r <;> trivial

theorem Advance.isSpent (h : Advance n s p sig p' s') (hp : p.IsSpent) : p'.IsSpent := by
  cases h with
  | settle | expire => exact isSpent_received ..
  | failUpload | refuseUpload => exact isSpent_uploadFailed ..
  | refuse | prepare | shut | check | deny | register | unencodable | breakOff | breakClosed | written =>
    exact hp.elim
  | _ => trivial

theorem Manage.isSpent (h : Manage s p sig p' s') (hp : p.IsSpent) : p'.IsSpent := by
  cases h with
  | stay => exact hp
  | connect | opened | install | announce | close | failAll | disconnect => exact hp.elim
  | _ => trivial

theorem isSpent_step (hp : s.callers[n]? = some p) (h : p.IsSpent) (e : Event τ) :
    ∃ p', (s.step e).callers[n]? = some p' ∧ p'.IsSpent := by
  obtain ⟨hp', -⟩ | ⟨sig, rfl, -⟩ := callers_step hp e
  · exact ⟨p, hp', h⟩
  · obtain he | ⟨p', s', hadv | hman, -, hp'⟩ := move_cases hp sig
    · exact ⟨p, by rw [he]; exact hp, h⟩
    · exact ⟨p', hp', hadv.isSpent h⟩
    · exact ⟨p', hp', hman.isSpent h⟩

theorem isSpent_moved (hf : p.frame? = some f) (o : Option Failure) :
    (s.moved n p (.written o)).1.IsSpent := by
  obtain ⟨x, w, rfl, hg⟩ | ⟨j, k, rfl, hj⟩ := Phase.frame?_cases hf
  · simp only [moved, greetStep, hg]
    split <;> trivial
  · simp only [moved, sendStep, hj]
    split <;> trivial

theorem isSpent_of_takes? (h : s.takes? e = some (n, f)) :
    ∃ p, (s.step e).callers[n]? = some p ∧ p.IsSpent := by
  obtain ⟨o, p, rfl, -, hp, hf⟩ := exists_of_takes? h
  exact ⟨_, caller_move hp _, isSpent_moved hf o⟩

theorem Manage.token? (h : Manage s p sig p' s') (hx : p'.token? = some x) : p.token? = some x := by
  cases h with
  | stay | connect | opened | install | announce => exact hx
  | _ => cases hx

variable {settings : Settings τ} {files : FileSystem} {es : List (Event τ)}

omit [Clock τ] in
theorem comes_of_callers {i : Invocation τ} (hn : s.callers[n]? = none)
    (hp : (s.callers ++ [i.phase])[n]? = some p) : Comes n i s (.call i) := by
  refine ⟨rfl, ?_⟩
  have hlt := (List.getElem?_eq_some_iff.1 hp).1
  have hle := List.getElem?_eq_none_iff.1 hn
  rw [List.length_append, List.length_singleton] at hlt
  omega

theorem comes_of_token? (hp : ((start settings files).run es).callers[n]? = some p)
    (hx : p.token? = some x) : Occurs (Comes n (.connect x)) (start settings files) es := by
  induction es using List.reverseRecOn generalizing p with
  | nil => simp [start] at hp
  | append_singleton es e ih =>
    rw [run_concat] at hp
    obtain ⟨hp', -⟩ | ⟨q, sig, rfl, hq, -⟩ | ⟨i, rfl, hn, rfl⟩ := caller_step hp
    · exact (ih hp' hx).concat e
    · obtain he | ⟨q', s', hadv | hman, -, hq'⟩ := move_cases hq sig
      · exact (ih (he ▸ hp) hx).concat _
      all_goals obtain rfl := Option.some_inj.1 (hq'.symm.trans hp)
      · obtain ha | ⟨r, rfl⟩ := hadv.isAsk_or_ended
        · cases (Phase.token?_of_isAsk ha).symm.trans hx
        · cases hx
      · exact (ih hq (hman.token? hx)).concat _
    · have hcome := comes_of_callers hn hp
      cases i with
      | connect y =>
        cases hx
        exact occurs_concat.2 (.inr hcome)
      | ask | close => cases hx

theorem comes_of_isAsk (hp : ((start settings files).run es).callers[n]? = some p) (h : p.IsAsk) :
    ∃ a, Occurs (Comes n (.ask a)) (start settings files) es := by
  induction es using List.reverseRecOn generalizing p with
  | nil => simp [start] at hp
  | append_singleton es e ih =>
    rw [run_concat] at hp
    obtain ⟨hp', -⟩ | ⟨q, sig, -, ha, -, hq, -⟩ | ⟨a, rfl, hn, rfl⟩ := ask_step h hp
    · obtain ⟨a, ha⟩ := ih hp' h
      exact ⟨a, ha.concat e⟩
    · obtain ⟨a, ha⟩ := ih hq ha
      exact ⟨a, ha.concat e⟩
    · exact ⟨a, occurs_concat.2 (.inr (comes_of_callers hn hp))⟩

theorem Advance.unsent? (h : Advance n s p sig p' s') (hj : p'.unsent? = some j) :
    p.unsent? = some j ∨ s.sessionId = some j.request.sessionId := by
  cases h with
  | prepare hprep =>
    cases hj
    exact .inr (sessionId_of_prepare hprep)
  | check | register => exact .inl hj
  | settle | expire => cases (isSpent_received ..).unsent?.symm.trans hj
  | failUpload | refuseUpload => cases (isSpent_uploadFailed ..).unsent?.symm.trans hj
  | _ => cases hj

theorem sessionId_of_unsent? (hp : ((start settings files).run es).callers[n]? = some p)
    (hj : p.unsent? = some j) :
    ((start settings files).run es).sessionId = some j.request.sessionId := by
  have hask {q : Phase τ} (hq : q.unsent? = some j) : q.IsAsk := by
    cases q with
    | check | register | send => trivial
    | _ => cases hq
  induction es using List.reverseRecOn generalizing p with
  | nil => simp [start] at hp
  | append_singleton es e ih =>
    rw [run_concat] at hp
    suffices h : ((start settings files).run es).sessionId = some j.request.sessionId from
      sessionId_stays h [e]
    obtain ⟨hp', -⟩ | ⟨q, sig, rfl, -, -, hq, hadv⟩ | ⟨a, -, -, rfl⟩ := ask_step (hask hj) hp
    · exact ih hp' hj
    · exact (hadv.unsent? hj).elim (ih hq) id
    · cases hj

def Registers (n : Nat) (g : Text) (s : Session τ) (e : Event τ) : Prop :=
  (∃ sig, e = .move n sig) ∧ s.correlator.contains g = false ∧ (s.step e).correlator.contains g = true

theorem registers_of_register {k : Nat} {c : Correlator τ} (hp : s.callers[n]? = some (.register j))
    (h : s.correlator.register s.now j.request.guid j.timeout false = .ok (k, c)) :
    Registers n j.request.guid s (.move n .go) := by
  obtain ⟨-, hg, -⟩ := Correlator.register_eq_ok_iff.1 h
  have hreg : (Phase.register j).registers? = some (j, .first) := rfl
  have hfirst : s.correlator.register s.now j.request.guid j.timeout Stage.first.isFinal = .ok (k, c) := h
  obtain ⟨q, hq, -⟩ := moved_registers (n := n) hreg hfirst
  obtain ⟨-, -, d, hc⟩ := correlator_of_register hp (congrArg Prod.snd hq) hfirst
  refine ⟨⟨_, rfl⟩, hg, ?_⟩
  have hmem : (j.request.guid, s.correlator.tickets.length) ∈
      (s.step (.move n .go)).correlator.pending := by
    rw [hc]
    exact List.mem_append_right _ (List.mem_singleton_self _)
  by_contra hne
  exact Correlator.contains_eq_false_iff.1 (Bool.not_eq_true _ ▸ hne) _ hmem

theorem registers_of_send {k : Nat}
    (hp : ((start settings files).run es).callers[n]? = some (.send j k)) :
    Occurs (Registers n j.request.guid) (start settings files) es := by
  induction es using List.reverseRecOn with
  | nil => simp [start] at hp
  | append_singleton es e ih =>
    rw [run_concat] at hp
    have hask : (Phase.send j k).IsAsk := trivial
    have hunspent : ¬(Phase.send j k).IsSpent := id
    obtain ⟨hp', -⟩ | ⟨q, sig, rfl, -, -, hq, hadv⟩ | ⟨a, -, -, ha⟩ := ask_step hask hp
    · exact (ih hp').concat e
    · generalize (((start settings files).run es).moved n q sig).2 = s',
        hto : Phase.send j k = p' at hadv
      cases hadv with
      | register hr =>
        cases hto
        exact occurs_concat.2 (.inr (registers_of_register hq hr))
      | settle | expire =>
        rw [hto] at hunspent
        exact absurd (isSpent_received ..) hunspent
      | failUpload | refuseUpload =>
        rw [hto] at hunspent
        exact absurd (isSpent_uploadFailed ..) hunspent
      | _ => cases hto
    · cases ha

/-- The caller has presented its token and waits for the answer, or has it. -/
def Phase.HasPresented : Phase τ → Prop
  | .awaitAuth _ _ | .giveUp _ | .enter _ => True
  | _ => False

theorem wire_ne_nil_of_hasPresented (hp : ((start settings files).run es).callers[n]? = some p)
    (h : p.HasPresented) : wire (start settings files) es ≠ [] := by
  induction es using List.reverseRecOn generalizing p with
  | nil => simp [start] at hp
  | append_singleton es e ih =>
    have hask : ¬p.IsAsk := by
      cases p with
      | awaitAuth | giveUp | enter => exact id
      | _ => exact h.elim
    have hend (r : Except Error (Option Classification)) : p ≠ .ended r := by
      rintro rfl
      exact h
    rw [run_concat] at hp
    obtain hp' | ⟨q, sig, s', rfl, hq, hman⟩ | ⟨i, rfl⟩ := manage_step hask hend hp
    · exact wire_concat_ne_nil (ih hp' h) e
    · cases hman with
      | stay => exact wire_concat_ne_nil (ih hq h) _
      | answered | strike => exact wire_concat_ne_nil (ih hq trivial) _
      | greet hg hw =>
        rw [wire_concat, takes?_written hq, if_pos (accepts_of_write hw)]
        simp [Phase.frame?, hg, Except.toOption]
      | _ => exact h.elim
    · cases i <;> exact h.elim

/-- A session is not an authenticated one before the token of its caller has been presented. -/
theorem wire_ne_nil_of_enters (h : Occurs Enters (start settings files) es) :
    wire (start settings files) es ≠ [] := by
  obtain ⟨es₁, e, es₂, rfl, h⟩ := h
  obtain ⟨n, r, -, hp, -⟩ := h.caller
  have hne := wire_ne_nil_of_hasPresented hp trivial
  rw [wire, observed_append]
  exact List.append_ne_nil_of_left_ne_nil hne _

/-- Caller `n` came with a question, and `f` is its request: the session is an authenticated one, the
request is under its id, and the caller has registered for the guid in it. No token is presented. -/
structure IsRequest (s₀ : Session τ) (es : List (Event τ)) (n : Nat) (f : Text) : Prop where
  caller : ∃ a, Occurs (Comes n (.ask a)) s₀ es
  entered : Occurs Enters s₀ es
  request : ∃ r, (Outbound.verdict r).encode = .ok f ∧ (s₀.run es).sessionId = some r.sessionId ∧
    Occurs (Registers n r.guid) s₀ es
  noToken : ∀ t, (Outbound.auth t).encode ≠ .ok f

theorem isRequest_of_send {k : Nat} (hp : ((start settings files).run es).callers[n]? = some (.send j k))
    (hf : (Outbound.verdict j.request).encode = .ok f) : IsRequest (start settings files) es n f := by
  have hid := sessionId_of_unsent? hp rfl
  refine ⟨comes_of_isAsk hp trivial, entered_of_sessionId hid,
    ⟨j.request, hf, hid, registers_of_send hp⟩, fun t ht ↦ ?_⟩
  cases Outbound.encode_injective hf ht

/-- What is known of the frames that the connection has taken in a run. -/
structure Orderly (s₀ : Session τ) (es : List (Event τ)) : Prop where
  taken : (s₀.run es).taken = (wire s₀ es).map Prod.snd
  nodup : ((wire s₀ es).map Prod.fst).Nodup
  spent : ∀ w ∈ wire s₀ es, ∃ p, (s₀.run es).callers[w.1]? = some p ∧ p.IsSpent
  first : ∀ w ∈ (wire s₀ es).head?, Occurs (Attempts w.1) s₀ es ∧
    ∃ x t, Occurs (Comes w.1 (.connect x)) s₀ es ∧ Field.text x = .ok t ∧
      (Outbound.auth t).encode = .ok w.2

theorem Orderly.wire_eq_nil (h : Orderly (start settings files) es)
    (hp : ((start settings files).run es).callers[n]? = some p) (ha : p.IsAttempt) (hs : ¬p.IsSpent) :
    wire (start settings files) es = [] := by
  cases hw : wire (start settings files) es with
  | nil => rfl
  | cons w ws =>
    exfalso
    have hmem : w ∈ (wire (start settings files) es).head? := by rw [hw]; rfl
    obtain rfl := attempts_unique (h.first w hmem).1 (attempts_of_isAttempt hp ha)
    obtain ⟨q, hq, hspent⟩ := h.spent w (List.mem_of_mem_head? hmem)
    obtain rfl := Option.some_inj.1 (hq.symm.trans hp)
    exact hs hspent

theorem Orderly.taken_concat (h : Orderly (start settings files) es) (e : Event τ) :
    ((start settings files).run (es ++ [e])).taken =
      (wire (start settings files) (es ++ [e])).map Prod.snd := by
  rw [run_concat, wire_concat, List.map_append, ← h.taken]
  obtain ht | ⟨ht, n, x, sig, rfl, hp⟩ := taken_step ((start settings files).run es) e
  · rw [ht]
    cases ((start settings files).run es).takes? e <;> rfl
  · have hopening : (Phase.opening x : Phase τ).IsAttempt := .inl trivial
    rw [ht, takes?_of_frame?_none hp rfl, h.taken, h.wire_eq_nil hp hopening id]
    rfl

theorem first_of_takes? (h : ((start settings files).run es).takes? e = some (n, f))
    (hw : wire (start settings files) es = []) : Occurs (Attempts n) (start settings files) es ∧
      ∃ x t, Occurs (Comes n (.connect x)) (start settings files) es ∧ Field.text x = .ok t ∧
        (Outbound.auth t).encode = .ok f := by
  obtain ⟨o, p, rfl, -, hp, hf⟩ := exists_of_takes? h
  obtain ⟨x, w, rfl, hg⟩ | ⟨j, k, rfl, hj⟩ := Phase.frame?_cases hf
  · obtain ⟨t, hx, ht⟩ := exists_of_greeting hg
    exact ⟨attempts_of_isAttempt hp (.inl trivial), x, t, comes_of_token? hp rfl, hx, ht⟩
  · exact absurd hw (wire_ne_nil_of_enters (isRequest_of_send hp hj).entered)

theorem Orderly.not_mem_of_takes? (h : Orderly (start settings files) es)
    (ht : ((start settings files).run es).takes? e = some (n, f)) :
    n ∉ (wire (start settings files) es).map Prod.fst := by
  intro hmem
  obtain ⟨w, hw, rfl⟩ := List.mem_map.1 hmem
  obtain ⟨q, hq, hspent⟩ := h.spent w hw
  obtain ⟨o, p, -, -, hp, hf⟩ := exists_of_takes? ht
  obtain rfl := Option.some_inj.1 (hq.symm.trans hp)
  exact Phase.not_isSpent_of_frame? hf hspent

theorem Orderly.nodup_concat (h : Orderly (start settings files) es) (e : Event τ) :
    ((wire (start settings files) (es ++ [e])).map Prod.fst).Nodup := by
  rw [wire_concat]
  cases ht : ((start settings files).run es).takes? e with
  | none => simpa using h.nodup
  | some w =>
    rw [Option.toList_some, List.map_append, List.map_singleton, ← List.concat_eq_append]
    exact h.nodup.concat (h.not_mem_of_takes? ht)

theorem Orderly.spent_concat (h : Orderly (start settings files) es) (e : Event τ) :
    ∀ w ∈ wire (start settings files) (es ++ [e]),
      ∃ p, ((start settings files).run (es ++ [e])).callers[w.1]? = some p ∧ p.IsSpent := by
  intro w hw
  rw [wire_concat] at hw
  rw [run_concat]
  obtain hw | hw := List.mem_append.1 hw
  · obtain ⟨p, hp, hs⟩ := h.spent w hw
    exact isSpent_step hp hs e
  · exact isSpent_of_takes? (Option.mem_toList.1 hw)

theorem Orderly.first_concat (h : Orderly (start settings files) es) (e : Event τ) :
    ∀ w ∈ (wire (start settings files) (es ++ [e])).head?,
      Occurs (Attempts w.1) (start settings files) (es ++ [e]) ∧
        ∃ x t, Occurs (Comes w.1 (.connect x)) (start settings files) (es ++ [e]) ∧
          Field.text x = .ok t ∧ (Outbound.auth t).encode = .ok w.2 := by
  intro w hw
  suffices hfirst : Occurs (Attempts w.1) (start settings files) es ∧
      ∃ x t, Occurs (Comes w.1 (.connect x)) (start settings files) es ∧ Field.text x = .ok t ∧
        (Outbound.auth t).encode = .ok w.2 by
    obtain ⟨ha, x, t, hc, ht⟩ := hfirst
    exact ⟨ha.concat e, x, t, hc.concat e, ht⟩
  rw [wire_concat] at hw
  cases hwire : wire (start settings files) es with
  | nil =>
    rw [hwire, List.nil_append, Option.head?_toList] at hw
    exact first_of_takes? hw hwire
  | cons w' ws =>
    refine h.first w ?_
    rw [hwire] at hw ⊢
    exact hw

theorem Orderly.concat (h : Orderly (start settings files) es) (e : Event τ) :
    Orderly (start settings files) (es ++ [e]) :=
  ⟨h.taken_concat e, h.nodup_concat e, h.spent_concat e, h.first_concat e⟩

theorem orderly_run (settings : Settings τ) (files : FileSystem) (es : List (Event τ)) :
    Orderly (start settings files) es := by
  induction es using List.reverseRecOn with
  | nil => exact ⟨rfl, .nil, fun w hw ↦ (by cases hw), fun w hw ↦ (by cases hw)⟩
  | append_singleton es e ih => exact ih.concat e

/-- The frames that a connection has taken are those that callers wrote to it, each caller one at most.
The first one presents the token with which its caller came to connect. Every later one is a request of
a caller that came to ask: when it is written, the session has become an authenticated one, the request
is under the id of the session, which it keeps for good, and its caller has registered for its guid. -/
theorem wire_discipline (settings : Settings τ) (files : FileSystem) (es : List (Event τ)) :
    ((start settings files).run es).taken = (wire (start settings files) es).map Prod.snd ∧
    ((wire (start settings files) es).map Prod.fst).Nodup ∧
    (∀ n f ws, wire (start settings files) es = (n, f) :: ws →
      ∃ x t, Occurs (Comes n (.connect x)) (start settings files) es ∧ Field.text x = .ok t ∧
        (Outbound.auth t).encode = .ok f) ∧
    (∀ es₁ e es₂ n f, es = es₁ ++ e :: es₂ →
      ((start settings files).run es₁).takes? e = some (n, f) → wire (start settings files) es₁ ≠ [] →
      IsRequest (start settings files) es₁ n f) ∧
    ∀ id fs, ((start settings files).run es).sessionId = some id →
      ((start settings files).run (es ++ fs)).sessionId = some id := by
  have h := orderly_run settings files es
  refine ⟨h.taken, h.nodup, fun n f ws hw ↦ ?_, fun es₁ e es₂ n f _ ht hne ↦ ?_, fun id fs hid ↦
    sessionId_stays hid fs⟩
  · exact (h.first (n, f) (by rw [hw]; rfl)).2
  · obtain ⟨o, p, rfl, -, hp, hf⟩ := exists_of_takes? ht
    obtain ⟨x, w, rfl, -⟩ | ⟨j, k, rfl, hj⟩ := Phase.frame?_cases hf
    · have hgreet : (Phase.greet x w : Phase τ).IsAttempt := .inl trivial
      exact absurd ((orderly_run settings files es₁).wire_eq_nil hp hgreet id) hne
    · exact isRequest_of_send hp hj

def Sample.greeting : Text := "\x7b\"kind\":\"AuthRequest\",\"token\":\"t\"\x7d"

def Sample.request : Text :=
  "\x7b\"kind\":\"VerdictRequestForUrl\",\"session_id\":\"s\",\"url\":\"u\",\"guid\":\"g\"\x7d"

def Sample.inquiring : List (Event Int) := opening ++ asking 1 (.url (.text "u")) "g"

theorem Sample.wire_inquiring :
    wire (start Sample.settings .empty) Sample.inquiring = [(0, Sample.greeting)] := by
  decide +kernel

theorem Sample.takes?_inquiring :
    ((start Sample.settings .empty).run Sample.inquiring).takes? (.move 1 (.written none)) =
      some (1, Sample.request) := by
  decide +kernel

theorem wire_discipline_inquiring :
    ((start Sample.settings .empty).run (Sample.inquiring ++ [.move 1 (.written none)])).taken =
      [Sample.greeting, Sample.request] ∧
    IsRequest (start Sample.settings .empty) Sample.inquiring 1 Sample.request := by
  obtain ⟨htaken, -, -, hlater, -⟩ := wire_discipline Sample.settings .empty
    (Sample.inquiring ++ [.move 1 (.written none)])
  refine ⟨?_, hlater _ _ [] 1 _ rfl Sample.takes?_inquiring ?_⟩
  · rw [htaken, wire_concat, Sample.wire_inquiring, Sample.takes?_inquiring]
    rfl
  · rw [Sample.wire_inquiring]
    exact List.cons_ne_nil _ _

end VerdictClient.Session
