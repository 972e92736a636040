import VerdictClient.Proofs.Session.Status

namespace VerdictClient.Session

variable {τ : Type}

/-- A call whose request can be made, in a session whose switches are in order. -/
structure Ask.IsWellFormed (a : Ask τ) (settings : Settings τ) (files : FileSystem) : Prop where
  readable : ∃ subject, a.query.fields files = .ok subject
  address : ∀ v, a.query = .url v → ∃ t, v = .text t
  guid : a.guid.isTruthy = true → ∃ t, a.guid = .text t
  cache : settings.useCache = .null ∨ ∃ b, Field.bool settings.useCache = .ok b
  lookup : settings.useHashLookup = .null ∨ ∃ b, Field.bool settings.useHashLookup = .ok b

/-- The session finds nothing wrong with the call but that it comes too late. In a closed session only
its digest is looked at. -/
structure Ask.IsInOrder (a : Ask τ) (s : Session τ) : Prop where
  digest : a.query.refused? = none
  request : s.state = .closed ∨ s.sessionId.isSome ∧ a.IsWellFormed s.settings s.files

variable {s s' : Session τ} {a : Ask τ} {p p' : Phase τ} {sig : Signal}

theorem optional_of_switch {name : Text} {v : Value} {fs : Fields}
    (h : v = .null ∨ ∃ b, Field.bool v = .ok b) (hl : Field.lookup name fs = some v) :
    ∃ b, Field.optional name Field.bool fs = .ok b := by
  obtain rfl | ⟨b, hb⟩ := h
  · exact ⟨none, by simp only [Field.optional, hl]⟩
  · have hne : v ≠ .null := by
      rintro rfl
      cases hb
    refine ⟨some b, ?_⟩
    unfold Field.optional
    rw [hl]
    cases v <;> first | exact absurd rfl hne | (simp only [hb]; rfl)

theorem ofFields_of_isWellFormed {subject : Fields} (h : a.IsWellFormed s.settings s.files)
    (hd : a.query.refused? = none) (hs : a.query.fields s.files = .ok subject) (id guid : Text) :
    ∃ r, VerdictRequest.ofFields a.query.kind (s.requestFields id subject (.text guid)) = .ok r := by
  -- The queries differ in their subjects only, and in the kind of the request.
  have hmake {k : OutboundKind} {fs : Fields} {x : Subject}
      (hkind : Field.lookup "kind" fs = none)
      (hid : Field.lookup "session_id" fs = some (.text id))
      (hguid : Field.lookup "guid" fs = some (.text guid))
      (hcache : Field.lookup "use_cache" fs = some s.settings.useCache)
      (hlookup : Field.lookup "use_hash_lookup" fs = some s.settings.useHashLookup)
      (hx : k.subjectField fs = .ok x) : ∃ r, VerdictRequest.ofFields k fs = .ok r := by
    obtain ⟨b₁, hb₁⟩ := optional_of_switch h.cache hcache
    obtain ⟨b₂, hb₂⟩ := optional_of_switch h.lookup hlookup
    refine ⟨⟨id, x, guid, b₁, b₂⟩, ?_⟩
    simp only [VerdictRequest.ofFields, kindField, Field.withDefault, Field.required, hkind, hid,
      hguid, hx, hb₁, hb₂]
    rfl
  cases hq : a.query with
  | hash v =>
    rw [hq] at hs
    cases v with
    | text t =>
      obtain rfl := Except.ok.inj hs
      exact hmake rfl rfl rfl rfl rfl rfl
    | _ =>
      rw [hq] at hd
      cases hd
  | url v =>
    rw [hq] at hs
    obtain rfl := Except.ok.inj hs
    obtain ⟨t, rfl⟩ := h.address v hq
    exact hmake rfl rfl rfl rfl rfl rfl
  | file path =>
    rw [hq] at hs
    simp only [Query.fields] at hs
    cases hr : s.files.read path with
    | error r =>
      rw [hr] at hs
      cases hs
    | ok content =>
      rw [hr] at hs
      obtain rfl := Except.ok.inj hs
      exact hmake rfl rfl rfl rfl rfl rfl
  | buffer content =>
    rw [hq] at hs
    obtain rfl := Except.ok.inj hs
    exact hmake rfl rfl rfl rfl rfl rfl
  | stream content length =>
    rw [hq] at hs
    obtain rfl := Except.ok.inj hs
    exact hmake rfl rfl rfl rfl rfl rfl

theorem prepare_of_isWellFormed (h : a.IsWellFormed s.settings s.files) (hd : a.query.refused? = none)
    {r : Error} (hr : (s.prepare a).1 = .error r) : s.authorization = .error r := by
  obtain ⟨subject, hs⟩ := h.readable
  cases hauth : s.authorization with
  | error r' =>
    simp only [prepare, hd, hauth] at hr
    exact congrArg Except.error (Except.error.inj hr)
  | ok id =>
    exfalso
    have hguid : ∃ g s₁, s.chooseGuid a.guid = (.text g, s₁) ∧ s₁.settings = s.settings := by
      unfold chooseGuid
      by_cases hg : a.guid.isTruthy = true
      · obtain ⟨t, ht⟩ := h.guid hg
        exact ⟨t, s, by rw [if_pos hg, ht], rfl⟩
      · exact ⟨_, { s with guids := s.guids + 1 }, if_neg hg, rfl⟩
    obtain ⟨g, s₁, hg, hset⟩ := hguid
    have hfields : s₁.requestFields id subject (.text g) = s.requestFields id subject (.text g) := by
      simp only [requestFields, hset]
    obtain ⟨req, hreq⟩ := ofFields_of_isWellFormed h hd hs id g
    simp only [prepare, hd, hauth, hs, hg, hfields, hreq] at hr
    cases hr

theorem authorization_of_closed (h : s.state = .closed) :
    s.authorization = .error (.closed .unnamed) := by
  simp only [authorization, h]

theorem authorization_eq_closed (hs : s.state = .authenticated ∨ s.state = .closed)
    (hid : s.sessionId.isSome) {r : Error} (h : s.authorization = .error r) :
    r = .closed .unnamed := by
  obtain ⟨id, hid⟩ := Option.isSome_iff_exists.1 hid
  obtain hs | hs := hs
  · simp only [authorization, hs, hid] at h
    split at h
    · exact (Except.error.inj h).symm
    · cases h
  · exact (Except.error.inj ((authorization_of_closed hs).symm.trans h)).symm

theorem Ask.IsInOrder.prepare (h : a.IsInOrder s)
    (hs : s.sessionId.isSome → s.state = .authenticated ∨ s.state = .closed) {r : Error}
    (hr : (s.prepare a).1 = .error r) : r = .closed .unnamed := by
  obtain hc | ⟨hid, hw⟩ := h.request
  · -- A closed session refuses the call before it looks at more than the digest.
    have hauth := authorization_of_closed hc
    simp only [Session.prepare, h.digest, hauth] at hr
    exact (Except.error.inj hr).symm
  · exact authorization_eq_closed (hs hid) hid (prepare_of_isWellFormed hw h.digest hr)

variable [Clock τ]

theorem fixed_step (s : Session τ) (e : Event τ) :
    (s.step e).settings = s.settings ∧ (s.step e).files = s.files := by
  by_cases hm : ∃ n sig, e = .move n sig
  · obtain ⟨n, sig, rfl⟩ := hm
    cases hp : s.callers[n]? with
    | none => rw [step_move_of_none hp]; exact ⟨rfl, rfl⟩
    | some p =>
      obtain h | ⟨p', s', hadv | hman, h, -⟩ := move_cases hp sig <;> rw [h]
      · exact ⟨rfl, rfl⟩
      · obtain ⟨t, c, k, ps, ls, rfl⟩ := hadv.eq_with
        exact ⟨rfl, rfl⟩
      · obtain ⟨st, id, t, b, r, rd, os, ls, rfl⟩ := hman.eq_with
        exact ⟨rfl, rfl⟩
  · obtain ⟨st, t, r, rd, cs, now, ls, h⟩ := step_eq_with (s := s) fun n sig he ↦ hm ⟨n, sig, he⟩
    rw [h]
    exact ⟨rfl, rfl⟩

variable {settings : Settings τ} {files : FileSystem} {es : List (Event τ)}

theorem Ask.IsInOrder.step (h : a.IsInOrder ((start settings files).run es)) (e : Event τ) :
    a.IsInOrder ((start settings files).run (es ++ [e])) := by
  refine ⟨h.digest, ?_⟩
  obtain hc | ⟨hid, hw⟩ := h.request
  · rw [run_concat]
    exact .inl (closed_step hc e)
  · obtain ⟨id, hsome⟩ := Option.isSome_iff_exists.1 hid
    rw [sessionId_stays hsome [e], run_concat]
    obtain ⟨hset, hfiles⟩ := fixed_step ((start settings files).run es) e
    exact .inr ⟨rfl, by rwa [hset, hfiles]⟩

theorem state_of_sessionId (h : ((start settings files).run es).sessionId.isSome) :
    ((start settings files).run es).state = .authenticated ∨
      ((start settings files).run es).state = .closed := by
  obtain ⟨id, hsome⟩ := Option.isSome_iff_exists.1 h
  exact ((entered_run settings files es).2 (entered_of_sessionId hsome)).1

end VerdictClient.Session
