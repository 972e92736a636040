import VerdictClient.Token

namespace VerdictClient.Token

variable {r : Http.Response} {v : Value} {c : Json.Container} {e : Error} {url : Text} {o : Http.Outcome}

/-- Whatever else the endpoint does, it is asked once, and its answer is all that matters. -/
theorem Grant.obtain_eq {m : Type → Type} [Monad m] [LawfulMonad m] (g : Grant) (url timeout : Value)
    (post : Request → m Http.Outcome) :
    g.obtain url timeout post = g.conclude url timeout <$> post (g.request url timeout) :=
  (map_eq_pure_bind _ _).symm

theorem Grant.result_exchange (g : Grant) (url timeout : Value) (answer : Request → Http.Outcome) :
    (g.exchange url timeout answer).result = result url.plain (answer (g.request url timeout)) := by
  simp only [exchange, conclude]
  cases Token.result url.plain (answer (g.request url timeout)) <;> rfl

theorem held_eq_ok_iff :
    held r = .ok v ↔ ∃ es, r.json = .ok (.map es) ∧ Value.get? "access_token" es = some v := by
  unfold held
  cases r.json with
  | ok w =>
    cases w with
    | map es => cases hget : Value.get? "access_token" es <;> simp [hget]
    | _ => simp
  | error x =>
    cases x with
    | encoding y => simp
    | json t y => cases y <;> simp

theorem held_eq_tooDeep_iff : held r = .error (.tooDeep c) ↔ ∃ t, r.json = .error (.json t (.tooDeep c)) := by
  unfold held
  cases r.json with
  | ok w =>
    cases w with
    | map es => cases hget : Value.get? "access_token" es <;> simp [hget]
    | _ => simp
  | error x =>
    cases x with
    | encoding y => simp
    | json t y => cases y <;> simp

theorem held_error_cases (h : held r = .error e) :
    (∃ c, e = .authentication c) ∨ ∃ c, e = .tooDeep c := by
  unfold held at h
  split at h
  · split at h
    · cases h
    · exact .inl ⟨_, (Except.error.inj h).symm⟩
  · exact .inl ⟨_, (Except.error.inj h).symm⟩
  · exact .inr ⟨_, (Except.error.inj h).symm⟩
  · exact .inl ⟨_, (Except.error.inj h).symm⟩

theorem ofFailure_ne_tooDeep (f : Failure) : Error.ofFailure f ≠ .tooDeep c := by
  cases f <;> simp [Error.ofFailure]

theorem result_eq_ok_iff : result url o = .ok v ↔
    ∃ r, o = .ok r ∧ r.status = 200 ∧ held r = .ok v := by
  unfold result
  cases o with
  | error f => cases hf : f.isHttp <;> simp [hf]
  | ok r => by_cases hs : r.status = 200 <;> simp [hs]

theorem result_eq_tooDeep_iff : result url o = .error (.tooDeep c) ↔
    ∃ r, o = .ok r ∧ r.status = 200 ∧ held r = .error (.tooDeep c) := by
  unfold result
  cases o with
  | error f => cases hf : f.isHttp <;> simp [hf, ofFailure_ne_tooDeep]
  | ok r => by_cases hs : r.status = 200 <;> simp [hs]

theorem result_error_cases (ho : ∀ f, o = .error f → f.isHttp = true) (h : result url o = .error e) :
    (∃ c, e = .authentication c) ∨ ∃ c, e = .tooDeep c := by
  unfold result at h
  cases o with
  | error f =>
    exact .inl ⟨_, (Except.error.inj ((if_pos (ho f rfl)).symm.trans h)).symm⟩
  | ok r =>
    by_cases hs : r.status = 200
    · exact held_error_cases ((if_pos hs).symm.trans h)
    · exact .inl ⟨_, (Except.error.inj ((if_neg hs).symm.trans h)).symm⟩

theorem text_or_refused_iff (ho : ∀ f, o = .error f → f.isHttp = true) :
    ((∃ t, result url o = .ok (.text t)) ∨ ∃ c, result url o = .error (.authentication c)) ↔
      (∀ v, result url o = .ok v → ∃ t, v = .text t) ∧ ∀ c, result url o ≠ .error (.tooDeep c) := by
  constructor
  · rintro (⟨t, ht⟩ | ⟨c, hc⟩)
    · exact ⟨fun v hv ↦ ⟨t, Except.ok.inj (hv.symm.trans ht)⟩, by simp [ht]⟩
    · simp [hc]
  · rintro ⟨htext, hdeep⟩
    cases hres : result url o with
    | ok v =>
      obtain ⟨t, rfl⟩ := htext v hres
      exact .inl ⟨t, rfl⟩
    | error e =>
      obtain ⟨c, rfl⟩ | ⟨c, rfl⟩ := result_error_cases ho hres
      · exact .inr ⟨c, rfl⟩
      · exact absurd hres (hdeep c)

/-- Asking for a token sends one request. What is returned is the member `access_token` of the object that
an answer of status 200 holds; everything else is an error, of authentication unless the answer nests too
deep to be read. So a token is a text or there is an error of authentication, unless that member is of
another type or the answer nests too deep. -/
theorem token_or_refusal (g : Grant) (url timeout : Value) (answer : Request → Http.Outcome)
    (hhttp : ∀ f, answer (g.request url timeout) = .error f → f.isHttp = true) :
    (∀ seen, (g.obtain url timeout (recording answer)).run seen =
      (g.exchange url timeout answer, seen ++ [g.request url timeout])) ∧
    (∀ v, (g.exchange url timeout answer).result = .ok v ↔
      ∃ r es, answer (g.request url timeout) = .ok r ∧ r.status = 200 ∧
        r.json = .ok (.map es) ∧ Value.get? "access_token" es = some v) ∧
    (∀ c, (g.exchange url timeout answer).result = .error (.tooDeep c) ↔
      ∃ r, answer (g.request url timeout) = .ok r ∧ r.status = 200 ∧
        ∃ t, r.json = .error (.json t (.tooDeep c))) ∧
    (∀ e, (g.exchange url timeout answer).result = .error e →
      (∃ c, e = .authentication c) ∨ ∃ c, e = .tooDeep c) ∧
    (((∃ t, (g.exchange url timeout answer).result = .ok (.text t)) ∨
        ∃ c, (g.exchange url timeout answer).result = .error (.authentication c)) ↔
      ∀ r, answer (g.request url timeout) = .ok r → r.status = 200 →
        (∀ es v, r.json = .ok (.map es) → Value.get? "access_token" es = some v →
          ∃ t, v = .text t) ∧
        ∀ c t, r.json ≠ .error (.json t (.tooDeep c))) := by
  rw [g.result_exchange]
  have hok (v : Value) : result url.plain (answer (g.request url timeout)) = .ok v ↔
      ∃ r es, answer (g.request url timeout) = .ok r ∧ r.status = 200 ∧
        r.json = .ok (.map es) ∧ Value.get? "access_token" es = some v := by
    simp only [result_eq_ok_iff, held_eq_ok_iff, exists_and_left]
  have hdeep (c : Json.Container) : result url.plain (answer (g.request url timeout)) =
      .error (.tooDeep c) ↔ ∃ r, answer (g.request url timeout) = .ok r ∧ r.status = 200 ∧
        ∃ t, r.json = .error (.json t (.tooDeep c)) := by
    simp only [result_eq_tooDeep_iff, held_eq_tooDeep_iff]
  refine ⟨fun seen ↦ ?_, hok, hdeep, fun e ↦ result_error_cases hhttp, ?_⟩
  · rw [g.obtain_eq]
    rfl
  · rw [text_or_refused_iff hhttp]
    constructor
    · rintro ⟨htext, hread⟩ r hr hs
      exact ⟨fun es v hes hget ↦ htext v ((hok v).2 ⟨r, es, hr, hs, hes, hget⟩),
        fun c t ht ↦ hread c ((hdeep c).2 ⟨r, hr, hs, t, ht⟩)⟩
    · intro h
      refine ⟨fun v hv ↦ ?_, fun c hc ↦ ?_⟩
      · obtain ⟨r, es, hr, hs, hes, hget⟩ := (hok v).1 hv
        exact (h r hr hs).1 es v hes hget
      · obtain ⟨r, hr, hs, t, ht⟩ := (hdeep c).1 hc
        exact (h r hr hs).2 c t ht

def Sample.numeral : Http.Response :=
  .ofUtf8 200 ("\x7b\"access_token\": 5\x7d" : String).toUTF8.toList

def Sample.isFive : Except Error Value → Bool
  | .ok (.int 5) => true
  | _ => false

theorem Sample.result_numeral : result "u" (.ok numeral) = .ok (.int 5) := by
  have hfive : isFive (result "u" (.ok numeral)) = true := by decide +kernel
  unfold isFive at hfive
  split at hfive
  · assumption
  · cases hfive

theorem not_always_a_text : ¬∀ (g : Grant) (url timeout : Value) (answer : Request → Http.Outcome),
    (∀ f, answer (g.request url timeout) = .error f → f.isHttp = true) →
    (∃ t, (g.exchange url timeout answer).result = .ok (.text t)) ∨
      ∃ c, (g.exchange url timeout answer).result = .error (.authentication c) := by
  intro h
  have hanswer := h (.clientCredentials (.text "id") (.text "secret")) (.text "u") .null
    (fun _ ↦ .ok Sample.numeral) (fun f hf ↦ by cases hf)
  rw [Grant.result_exchange] at hanswer
  obtain ⟨t, ht⟩ | ⟨c, hc⟩ := hanswer
  · cases Sample.result_numeral.symm.trans ht
  · cases Sample.result_numeral.symm.trans hc

theorem token_or_refusal_numeral :
    let g := Grant.password (.text "id") (.text "user") (.text "secret")
    ((g.obtain (.text "u") .null (recording fun _ ↦ .ok Sample.numeral)).run []).2 =
        [⟨.text "u", g.form, .null⟩] ∧
      (g.exchange (.text "u") .null fun _ ↦ .ok Sample.numeral).result = .ok (.int 5) ∧
      ∃ c, (g.exchange (.text "u") .null fun _ ↦ .error (.httpTimeout "slow")).result =
        .error (.authentication c) := by
  let g := Grant.password (.text "id") (.text "user") (.text "secret")
  obtain ⟨hposts, htoken, -, -, -⟩ := token_or_refusal g (.text "u") .null (fun _ ↦ .ok Sample.numeral)
    (fun f hf ↦ by cases hf)
  obtain ⟨r, hr, hs, hbody⟩ := result_eq_ok_iff.1 Sample.result_numeral
  obtain ⟨es, hread, hget⟩ := held_eq_ok_iff.1 hbody
  obtain ⟨-, -, -, -, hkept⟩ := token_or_refusal g (.text "u") .null
    (fun _ ↦ .error (.httpTimeout "slow")) (fun f hf ↦ by cases hf; rfl)
  refine ⟨congrArg Prod.snd (hposts []), (htoken (.int 5)).2 ⟨r, es, hr, hs, hread, hget⟩, ?_⟩
  obtain ⟨t, ht⟩ | hc := hkept.2 fun r hr ↦ by cases hr
  · cases ht
  · exact hc

end VerdictClient.Token
