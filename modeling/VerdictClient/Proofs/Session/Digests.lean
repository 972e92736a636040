import VerdictClient.Proofs.Digest
import VerdictClient.Proofs.Message.Writing
import VerdictClient.Proofs.Session.Authentication
import VerdictClient.Proofs.Session.FileOrBuffer
import VerdictClient.Proofs.Session.WellFormed
import VerdictClient.Proofs.Text.Case

namespace VerdictClient

namespace Digest

variable {t u : Text}

theorem isDigest_iff :
    IsDigest t ↔ t.length = 64 ∧ ∀ c ∈ t, c ∈ Text.ofString "0123456789abcdefABCDEF" := by
  simp only [IsDigest, CodePoint.isSome_hexDigit?_iff]

def SameDigits (t u : Text) : Prop := t.map CodePoint.hexDigit? = u.map CodePoint.hexDigit?

theorem lower_eq_digitChar {c : CodePoint} (h : c.hexDigit?.isSome = true) :
    c.lower = .char (c.hexDigit?.getD 0).digitChar := by
  rw [CodePoint.isSome_hexDigit?_iff] at h
  revert c
  decide

theorem lower_eq_lower_iff (ht : IsDigest t) (hu : IsDigest u) : t.lower = u.lower ↔ SameDigits t u := by
  have hdigits (t : Text) : t.map CodePoint.hexDigit? = t.lower.map CodePoint.hexDigit? := by
    simp only [Text.lower, List.map_map, Function.comp_def, CodePoint.hexDigit?_lower]
  have hlower {t : Text} (ht : IsDigest t) :
      t.lower = (t.map CodePoint.hexDigit?).map fun o ↦ .char (o.getD 0).digitChar := by
    rw [Text.lower, List.map_map]
    exact List.map_congr_left fun c hc ↦ lower_eq_digitChar (ht.2 c hc)
  constructor
  · intro h
    rw [SameDigits, hdigits t, hdigits u, h]
  · intro h
    rw [hlower ht, hlower hu, h]

theorem isWhole_lower (h : IsDigest t) : t.lower.IsWhole := by
  intro c hc
  obtain ⟨d, hd, rfl⟩ := List.mem_map.1 hc
  rw [lower_eq_digitChar (h.2 d hd)]
  rfl

theorem isDigest_ofBytes (content : Bytes) : IsDigest (ofBytes content) := by
  have hdigits : ∀ c ∈ Text.hexDigits, c.hexDigit?.isSome = true := by decide
  exact ⟨length_ofBytes content, fun c hc ↦ hdigits c (mem_hexDigits_of_mem_ofBytes hc)⟩

theorem lower_ofBytes (content : Bytes) : (ofBytes content).lower = ofBytes content := by
  have hlower : ∀ c ∈ Text.hexDigits, c.lower = c := by decide
  have hsame : (ofBytes content).map CodePoint.lower = (ofBytes content).map id :=
    List.map_congr_left fun c hc ↦ hlower c (mem_hexDigits_of_mem_ofBytes hc)
  rwa [List.map_id] at hsame

end Digest

namespace Session

variable {τ : Type} {s s' : Session τ} {n : Nat} {a : Ask τ} {p p' : Phase τ} {sig : Signal} {j : Job τ}
  {t u id guid f : Text} {g : Value} {w : Option (Timeout τ)}

/-- A caller with a question, as far as it has not written its request: this is what was prepared for it. -/
def Phase.Pursues (a : Ask τ) : Phase τ → Prop
  | .ask b => b = a
  | .check j | .register j | .send j _ => ∃ s : Session τ, (s.prepare a).1 = .ok j
  | .await _ _ _ _ | .expire _ _ _ | .registerFinal _ _ _ _ | .upload _ _ _ _ _ | .uploading _ _ _ _
  | .restart _ _ | .abandon _ _ | .ended _ => True
  | _ => False

theorem Phase.Pursues.isAsk_or_ended (h : p.Pursues a) : p.IsAsk ∨ ∃ r, p = .ended r := by
  cases p with
  | ended r => exact .inr ⟨r, rfl⟩
  | ask | check | register | send | await | expire | registerFinal | upload | uploading | restart
  | abandon => exact .inl trivial
  | _ => exact h.elim

theorem pursues_received (j : Job τ) (st : Stage) (r : Except Error VerdictResponse) :
    (received j st r).Pursues a := by
  unfold received
  split
  · trivial
  · split
    · split
      · split <;> trivial
      · trivial
    · trivial

theorem pursues_uploadFailed (j : Job τ) (e : Error) : (uploadFailed j e).Pursues a := by
  cases e <;> trivial

theorem refused?_hash : (Query.hash (.text t)).refused? = none ↔ Digest.IsDigest t := by
  simp [Query.refused?]

theorem guid_of_ofFields {k : OutboundKind} {r : VerdictRequest} {fs : Fields} {v : Value}
    (h : VerdictRequest.ofFields k fs = .ok r) (hv : Field.lookup "guid" fs = some v) :
    Field.text v = .ok r.guid := by
  unfold VerdictRequest.ofFields at h
  split at h
  · next hguid _ _ =>
    cases h
    simp only [Field.required, hv] at hguid
    cases ht : Field.text v with
    | error fault =>
      rw [ht] at hguid
      cases hguid
    | ok t =>
      rw [ht] at hguid
      exact congrArg _ (Except.ok.inj hguid)
  · cases h

theorem settings_chooseGuid (s : Session τ) (v : Value) : (s.chooseGuid v).2.settings = s.settings := by
  unfold chooseGuid
  split <;> rfl

theorem request_of_prepare (h : (s.prepare ⟨.hash (.text t), g, w⟩).1 = .ok j) :
    Digest.IsDigest t ∧ s.authorization = .ok j.request.sessionId ∧ j.request.subject = .hash t.lower ∧
      Field.text (s.chooseGuid g).1 = .ok j.request.guid ∧ j.timeout = w.getD s.settings.timeout := by
  unfold prepare at h
  split at h
  · cases h
  next hrefused =>
  split at h
  · cases h
  next id hauth =>
  simp only [Query.fields, Query.kind] at h
  split at h
  · cases h
  next r hr =>
  cases h
  refine ⟨refused?_hash.1 hrefused, ?_, subject_of_ofFields hr, guid_of_ofFields hr rfl, ?_⟩
  · rw [hauth, sessionId_of_ofFields hr]
  · simp only [settings_chooseGuid]

theorem prepare_of_not_isDigest (h : ¬Digest.IsDigest t) (s : Session τ) :
    s.prepare ⟨.hash (.text t), g, w⟩ = (.error (.invalidDigest t), s) := by
  simp [prepare, Query.refused?, h]

theorem authorization_ne_invalidDigest (s : Session τ) (u : Text) :
    s.authorization ≠ .error (.invalidDigest u) := by
  unfold authorization
  repeat' split
  all_goals simp

theorem prepare_ne_invalidDigest (h : Digest.IsDigest t) (s : Session τ) (u : Text) :
    (s.prepare ⟨.hash (.text t), g, w⟩).1 ≠ .error (.invalidDigest u) := by
  intro he
  unfold prepare at he
  rw [refused?_hash.2 h] at he
  split at he
  · next hr =>
    cases hr
  split at he
  · next e hauth =>
    exact s.authorization_ne_invalidDigest u (hauth.trans (congrArg _ (Except.error.inj he)))
  simp only [Query.fields] at he
  split at he <;> cases he

/-- A session in which a request can be written for a question: it is authenticated under `id`, its connection
is open, nothing is wrong with the question, and nobody waits for an answer under the guid. -/
structure Admits (s : Session τ) (a : Ask τ) (id guid : Text) : Prop where
  state : s.state = .authenticated
  sessionId : s.sessionId = some id
  transport : ∃ x, s.transport? = some x ∧ x.closed = false
  correlator : s.correlator.closed = none
  wellFormed : a.IsWellFormed s.settings s.files
  chosen : (s.chooseGuid a.guid).1 = .text guid
  free : s.correlator.contains guid = false
  timeout : ∃ span, (a.timeout.getD s.settings.timeout).span? = some span
  whole : id.IsWhole ∧ guid.IsWhole

theorem Admits.authorization (h : s.Admits a id guid) : s.authorization = .ok id := by
  obtain ⟨x, hx, hopen⟩ := h.transport
  simp [Session.authorization, h.state, h.sessionId, hx, hopen]

theorem exists_prepare (ht : Digest.IsDigest t) (h : s.Admits ⟨.hash (.text t), g, w⟩ id guid) :
    ∃ j, (s.prepare ⟨.hash (.text t), g, w⟩).1 = .ok j := by
  cases hj : (s.prepare ⟨.hash (.text t), g, w⟩).1 with
  | ok j => exact ⟨j, rfl⟩
  | error e => cases h.authorization.symm.trans (prepare_of_isWellFormed h.wellFormed (refused?_hash.2 ht) hj)

variable [Clock τ]

theorem Advance.pursues (h : Advance n s p sig p' s') (hp : p.Pursues a) : p'.Pursues a := by
  cases h with
  | prepare hj =>
    obtain rfl : _ = a := hp
    exact ⟨s, hj⟩
  | settle | expire => exact pursues_received _ _ _
  | failUpload | refuseUpload => exact pursues_uploadFailed _ _
  | check | register => exact hp
  | _ => trivial

theorem pursues_run (hp : s.callers[n]? = some p) (h : p.Pursues a) (es : List (Event τ)) :
    ∃ q, (s.run es).callers[n]? = some q ∧ q.Pursues a :=
  call_run (fun ha ↦ ha.isAsk_or_ended) (fun hadv ha ↦ hadv.pursues ha) hp h es

/-- What a caller with a question writes is the request that was prepared for it. -/
theorem prepared_of_wire (hp : s.callers[n]? = some (.ask a)) {es : List (Event τ)}
    (hf : (n, f) ∈ wire s es) :
    ∃ (s₁ : Session τ) (j : Job τ), (s₁.prepare a).1 = .ok j ∧
      (Outbound.verdict j.request).encode = .ok f := by
  induction es using List.reverseRecOn with
  | nil => cases hf
  | append_singleton es e ih =>
    rw [wire_concat] at hf
    rcases List.mem_append.1 hf with hf | hf
    · exact ih hf
    · obtain ⟨o, q, rfl, -, hq, hframe⟩ := exists_of_takes? (Option.mem_toList.1 hf)
      obtain ⟨q', hq', hpursues⟩ := pursues_run hp (a := a) rfl es
      obtain rfl : q' = q := Option.some.inj (hq'.symm.trans hq)
      obtain ⟨x, v, rfl, -⟩ | ⟨i, k, rfl, hi⟩ := Phase.frame?_cases hframe
      · exact hpursues.elim
      · obtain ⟨s₁, hs₁⟩ := hpursues
        exact ⟨s₁, i, hs₁, hi⟩

theorem step_eq_refused_iff (hp : s.callers[n]? = some (.ask ⟨.hash (.text t), g, w⟩)) :
    s.step (.move n .go) =
      { s with callers := s.callers.set n (.ended (.error (.invalidDigest t))) } ↔ ¬Digest.IsDigest t := by
  rw [step_move hp]
  constructor
  · intro h ht
    have hask : s.moved n (.ask ⟨.hash (.text t), g, w⟩) .go = s.askStep ⟨.hash (.text t), g, w⟩ := rfl
    have hn : n < s.callers.length := (List.getElem?_eq_some_iff.1 hp).1
    have hphase : (s.askStep ⟨.hash (.text t), g, w⟩).1 = .ended (.error (.invalidDigest t)) := by
      have hn' := congrArg (fun x ↦ x.callers[n]?) h
      simpa [hn, hask] using hn'
    unfold askStep at hphase
    split at hphase
    · next e s' hprep =>
      cases hphase
      exact prepare_ne_invalidDigest ht s t (congrArg Prod.fst hprep)
    · cases hphase
  · intro ht
    have hask : s.moved n (.ask ⟨.hash (.text t), g, w⟩) .go =
        (.ended (.error (.invalidDigest t)), s) := by
      simp only [moved, askStep, prepare_of_not_isDigest ht]
    rw [hask]

structure Job.IsFree (j : Job τ) (f : Text) (s : Session τ) : Prop where
  transport : ∃ x, s.transport? = some x ∧ x.closed = false
  correlator : s.correlator.closed = none
  guid : s.correlator.contains j.request.guid = false
  timeout : ∃ span, j.timeout.span? = some span
  frame : (Outbound.verdict j.request).encode = .ok f

theorem wire_of_send {k : Nat} (hp : s.callers[n]? = some (.send j k))
    (hx : ∃ x, s.transport? = some x ∧ x.closed = false)
    (hf : (Outbound.verdict j.request).encode = .ok f) : wire s [.move n (.written none)] = [(n, f)] := by
  obtain ⟨x, hx, hopen⟩ := hx
  have hconnection : s.connection = some x := (Option.ite_none_right_eq_some.1 hx).2
  have haccepts : s.accepts none = true := by simp [accepts, hconnection, hopen]
  have hframe : (Phase.send j k).frame? = some f := by simp only [Phase.frame?, hf, Except.toOption]
  have htakes : s.takes? (.move n (.written none)) = some (n, f) := by
    rw [takes?_written hp, if_pos haccepts, hframe]
    rfl
  simp only [wire, observed, htakes]
  rfl

theorem wire_of_register (hp : s.callers[n]? = some (.register j)) (h : j.IsFree f s) :
    wire s [.move n .go, .move n (.written none)] = [(n, f)] := by
  have hn : n < s.callers.length := (List.getElem?_eq_some_iff.1 hp).1
  obtain ⟨span, hspan⟩ := h.timeout
  obtain ⟨c, hc⟩ : ∃ c, s.correlator.register s.now j.request.guid j.timeout false =
      .ok (s.correlator.tickets.length, c) :=
    ⟨_, Correlator.register_eq_ok_iff.2 ⟨h.correlator, h.guid, rfl, _,
      Correlator.deadline_eq_ok_iff.2 ⟨span, hspan, rfl⟩, rfl⟩⟩
  have hmoved : s.moved n (.register j) .go =
      (.send j s.correlator.tickets.length, s.withCorrelator c) := by
    simp only [moved, registerStep, hc]
  have hstep := step_move hp .go
  rw [hmoved] at hstep
  change wire (s.step (.move n .go)) [.move n (.written none)] = [(n, f)]
  rw [hstep]
  exact wire_of_send (List.getElem?_set_self hn) h.transport h.frame

theorem wire_of_check (hp : s.callers[n]? = some (.check j)) (h : j.IsFree f s) :
    wire s [.move n .go, .move n .go, .move n (.written none)] = [(n, f)] := by
  have hn : n < s.callers.length := (List.getElem?_eq_some_iff.1 hp).1
  obtain ⟨x, hx, hopen⟩ := h.transport
  have hmoved : s.moved n (.check j) .go = (.register j, s) := by
    simp [moved, checkStep, hx, hopen]
  have hstep := step_move hp .go
  rw [hmoved] at hstep
  change wire (s.step (.move n .go)) [.move n .go, .move n (.written none)] = [(n, f)]
  rw [hstep]
  exact wire_of_register (List.getElem?_set_self hn) ⟨h.transport, h.correlator, h.guid, h.timeout, h.frame⟩

def writing (n : Nat) : List (Event τ) := [.move n .go, .move n .go, .move n .go, .move n (.written none)]

theorem wire_of_admits (ht : Digest.IsDigest t) (hp : s.callers[n]? = some (.ask ⟨.hash (.text t), g, w⟩))
    (h : s.Admits ⟨.hash (.text t), g, w⟩ id guid) :
    ∃ (r : VerdictRequest) (f : Text), (Outbound.verdict r).encode = .ok f ∧ r.sessionId = id ∧
      r.subject = .hash t.lower ∧ r.guid = guid ∧ wire s (writing n) = [(n, f)] := by
  obtain ⟨j, hj⟩ := exists_prepare ht h
  obtain ⟨-, hid, hsubject, hguid, htimeout⟩ := request_of_prepare hj
  obtain rfl : id = j.request.sessionId := Except.ok.inj (h.authorization.symm.trans hid)
  rw [h.chosen] at hguid
  obtain rfl : guid = j.request.guid := Except.ok.inj hguid
  obtain ⟨f, hf⟩ : ∃ f, (Outbound.verdict j.request).encode = .ok f := by
    refine ⟨_, Outbound.encode_eq_ok_iff.2 ⟨⟨h.whole.1, ?_, h.whole.2⟩, rfl⟩⟩
    rw [hsubject]
    exact Digest.isWhole_lower ht
  obtain ⟨span, hspan⟩ := h.timeout
  refine ⟨j.request, f, hf, rfl, hsubject, rfl, ?_⟩
  -- The first step only makes the request; it uses up a guid if none is given.
  obtain ⟨k, hk⟩ := s.prepare_snd ⟨.hash (.text t), g, w⟩
  have hprepare : s.prepare ⟨.hash (.text t), g, w⟩ = (.ok j, { s with guids := k }) := Prod.ext hj hk
  have hmoved : s.moved n (.ask ⟨.hash (.text t), g, w⟩) .go = (.check j, { s with guids := k }) := by
    simp only [moved, askStep, hprepare]
  have hstep := step_move hp .go
  rw [hmoved] at hstep
  change wire (s.step (.move n .go)) [.move n .go, .move n .go, .move n (.written none)] = [(n, f)]
  rw [hstep]
  have hn : n < s.callers.length := (List.getElem?_eq_some_iff.1 hp).1
  exact wire_of_check (List.getElem?_set_self hn)
    ⟨h.transport, h.correlator, h.free, ⟨span, by rw [htimeout]; exact hspan⟩, hf⟩

/-- To ask about one spelling of a digest is like asking about another. -/
theorem query_ofSpelling (ht : Digest.IsDigest t) (hu : Digest.IsDigest u) (h : Digest.SameDigits t u)
    (files : FileSystem) : Query.Alike (Likeness.same files) (.hash (.text t)) (.hash (.text u)) where
  refused := (refused?_hash.2 hu).trans (refused?_hash.2 ht).symm
  kind := rfl
  fields := by
    rw [Query.fields, Query.fields, (Digest.lower_eq_lower_iff ht hu).2 h]
  content := .none

theorem run_ofSpelling (ht : Digest.IsDigest t) (hu : Digest.IsDigest u) (h : Digest.SameDigits t u)
    (s : Session τ) (es : List (Event τ)) :
    let x := s.run (asked (.hash (.text t)) g w es)
    let y := s.run (asked (.hash (.text u)) g w es)
    y = { x with callers := y.callers } ∧
    (∀ (n : Nat) (r : Except Error (Option Classification)),
      y.callers[n]? = some (.ended r) ↔ x.callers[n]? = some (.ended r)) ∧
    wire s (asked (.hash (.text u)) g w es) = wire s (asked (.hash (.text t)) g w es) := by
  intro x y
  have hes : List.Forall₂ (Event.Alike (Likeness.same s.files))
      (asked (.hash (.text t)) g w es) (asked (.hash (.text u)) g w es) :=
    .cons (.call (.ask ⟨query_ofSpelling ht hu h s.files⟩)) (forall₂_refl_of Event.Alike.refl es)
  have halike : s.Alike (Likeness.same s.files) s := .refl rfl
  have hxy : x.Alike (Likeness.same s.files) y := halike.run hes
  have hconnection : y.connection = x.connection :=
    rel_eq (fun h ↦ Transport.Alike.eq (fun h ↦ h) h) hxy.connection
  have hreceiver : y.receiver = x.receiver := Receiver.Alike.eq (fun h ↦ h) hxy.receiver
  have hputs : y.puts = x.puts := forall₂_eq (fun h ↦ Prod.ext h.1 h.2) hxy.puts
  have hlog : y.log = x.log := forall₂_eq (fun h ↦ h) hxy.log
  refine ⟨?_, hxy.ended_iff, ?_⟩
  · have h := hxy.eq_with
    rwa [hconnection, hreceiver, hputs, hlog] at h
  · exact forall₂_eq (fun h ↦ Prod.ext h.1 h.2) (halike.wire hes)

/-- A digest is looked at first and written in lower case. In a session in any state, a caller that asks
about a text is refused at once and without a trace just if the text is not sixty-four hexadecimal digits of
ASCII. All that a caller writes that is not refused is a request for the text in lower case, and in an
authenticated session with an open connection it writes one if its guid is free and nothing else is wrong. So
it does not matter in which of its spellings a digest is given: the same frames are written, everybody gets
the same result and the session is the same. The digest of a buffer is one, and in lower case. -/
theorem digest_looked_at_first (t : Text) (g : Value) (w : Option (Timeout τ)) :
    (∀ (s : Session τ) (n : Nat), s.callers[n]? = some (.ask ⟨.hash (.text t), g, w⟩) →
      (s.step (.move n .go) =
        { s with callers := s.callers.set n (.ended (.error (.invalidDigest t))) } ↔
        ¬(t.length = 64 ∧ ∀ c ∈ t, c ∈ Text.ofString "0123456789abcdefABCDEF"))) ∧
    (∀ (s : Session τ) (n : Nat) (es : List (Event τ)) (f : Text),
      s.callers[n]? = some (.ask ⟨.hash (.text t), g, w⟩) → (n, f) ∈ wire s es →
        Digest.IsDigest t ∧ ∃ r : VerdictRequest, r.subject = .hash t.lower ∧
          (g.isTruthy = true → Field.text g = .ok r.guid) ∧ (Outbound.verdict r).encode = .ok f) ∧
    (∀ (s : Session τ) (n : Nat) (id guid : Text), Digest.IsDigest t →
      s.callers[n]? = some (.ask ⟨.hash (.text t), g, w⟩) →
      s.Admits ⟨.hash (.text t), g, w⟩ id guid → ∃ (r : VerdictRequest) (f : Text),
        (Outbound.verdict r).encode = .ok f ∧ r.sessionId = id ∧ r.subject = .hash t.lower ∧
          r.guid = guid ∧ wire s (writing n) = [(n, f)]) ∧
    (∀ u, Digest.IsDigest t → Digest.IsDigest u → (Digest.SameDigits t u ↔ t.lower = u.lower) ∧
      (Digest.SameDigits t u → ∀ (s : Session τ) (es : List (Event τ)),
        let x := s.run (asked (.hash (.text t)) g w es)
        let y := s.run (asked (.hash (.text u)) g w es)
        y = { x with callers := y.callers } ∧
        (∀ (n : Nat) (r : Except Error (Option Classification)),
          y.callers[n]? = some (.ended r) ↔ x.callers[n]? = some (.ended r)) ∧
        wire s (asked (.hash (.text u)) g w es) = wire s (asked (.hash (.text t)) g w es))) ∧
    ∀ content : Bytes, Digest.IsDigest (Digest.ofBytes content) ∧
      (Digest.ofBytes content).lower = Digest.ofBytes content := by
  refine ⟨fun s n hp ↦ ?_, fun s n es f hp hf ↦ ?_, fun s n id guid ht hp h ↦ wire_of_admits ht hp h,
    fun u ht hu ↦ ⟨(Digest.lower_eq_lower_iff ht hu).symm, fun h s es ↦ run_ofSpelling ht hu h s es⟩,
    fun content ↦ ⟨Digest.isDigest_ofBytes content, Digest.lower_ofBytes content⟩⟩
  · rw [step_eq_refused_iff hp, Digest.isDigest_iff]
  · obtain ⟨s₁, j, hj, hframe⟩ := prepared_of_wire hp hf
    obtain ⟨ht, -, hsubject, hguid, -⟩ := request_of_prepare hj
    refine ⟨ht, j.request, hsubject, fun hg ↦ ?_, hframe⟩
    rwa [chooseGuid, if_pos hg] at hguid

def Sample.capitals : Text :=
  "8F434346648F6B96DF89DDA901C5176B10A6D83961DD3C1AC88B59B2DC327AA4"

def Sample.inquiry (t : Text) : Session Int :=
  (start Sample.settings .empty).run (Sample.opening ++ [.call (.ask ⟨.hash (.text t), .text "g", none⟩)])

theorem Sample.admits_inquiry (t : Text) :
    (Sample.inquiry t).Admits ⟨.hash (.text t), .text "g", none⟩ "s" "g" where
  state := rfl
  sessionId := rfl
  transport := ⟨_, rfl, rfl⟩
  correlator := rfl
  wellFormed := ⟨⟨_, rfl⟩, by simp, fun _ ↦ ⟨_, rfl⟩, .inl rfl, .inl rfl⟩
  chosen := rfl
  free := rfl
  timeout := ⟨_, rfl⟩
  whole := by decide

theorem digest_looked_at_first_capitals :
    (Sample.inquiry (Sample.capitals ++ "\n")).step (.move 1 .go) =
      { Sample.inquiry (Sample.capitals ++ "\n") with
        callers := (Sample.inquiry (Sample.capitals ++ "\n")).callers.set 1
          (.ended (.error (.invalidDigest (Sample.capitals ++ "\n")))) } ∧
    wire (Sample.inquiry Sample.capitals) (writing 1) = [(1, Sample.order)] ∧
    (∃ r : VerdictRequest, r.subject = .hash Sample.capitals.lower ∧ r.guid = "g" ∧
      (Outbound.verdict r).encode = .ok Sample.order) ∧
    wire (Sample.inquiry []) (asked (.hash (.text Sample.capitals)) (.text "g") none (writing 2)) =
      wire (Sample.inquiry [])
        (asked (.hash (.text Sample.capitals.lower)) (.text "g") none (writing 2)) := by
  obtain ⟨hrefused, -⟩ := digest_looked_at_first (τ := Int) (Sample.capitals ++ "\n") (.text "g") none
  obtain ⟨-, -, hexists, hspelling, -⟩ :=
    digest_looked_at_first (τ := Int) Sample.capitals (.text "g") none
  have hdigest : Digest.IsDigest Sample.capitals := by decide +kernel
  have hwire : wire (Sample.inquiry Sample.capitals) (writing 1) = [(1, Sample.order)] := by decide +kernel
  refine ⟨(hrefused _ 1 rfl).2 (by decide +kernel), hwire, ?_, ?_⟩
  · obtain ⟨r, f, hf, -, hsubject, hguid, hr⟩ :=
      hexists _ 1 "s" "g" hdigest rfl (Sample.admits_inquiry _)
    rw [hwire] at hr
    cases hr
    exact ⟨r, hsubject, hguid, hf⟩
  · have hlower : Digest.IsDigest Sample.capitals.lower := by decide +kernel
    obtain ⟨hsame, hrun⟩ := hspelling _ hdigest hlower
    exact (hrun (hsame.2 (Text.lower_lower _).symm) (Sample.inquiry []) (writing 2)).2.2.symm

end Session

end VerdictClient
