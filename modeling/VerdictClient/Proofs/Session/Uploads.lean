import VerdictClient.Proofs.Session.Course

namespace VerdictClient.Session

variable {τ : Type} [Clock τ] {s s' : Session τ} {os : List Nat} {n : Nat} {p p' : Phase τ}
  {sig : Signal} {j : Job τ} {b : Upload.Content} {l : Option Value} {vs : Stage → List VerdictResponse}
  {why : Error → Prop} {ds : List (Deed τ)} {r : Except Error (Option Classification)}

def uploads (n : Nat) (s : Session τ) (es : List (Event τ)) :
    List (Upload.Target × Upload.Content × Option Value) :=
  (deeds n s es).filterMap Deed.upload?

theorem Stops.uploads {st : Stage} {w : τ} (h : Stops st w ds) : ds.filterMap Deed.upload? = [] := by
  cases h <;> rfl

theorem Fails.uploads {g : Text} {st : Stage} {t d : τ} {e : Error} (h : Fails g st t d ds e) :
    ds.filterMap Deed.upload? = [] := by
  cases h <;> rfl

theorem Asked.uploads (h : Asked j ds) : ds.filterMap Deed.upload? = [] := by
  obtain ⟨t₁, t₂, d, ds', rfl, -, hs⟩ := h
  exact hs.uploads

theorem Called.uploads {us : List VerdictResponse} {put : Except Error Upload.Put}
    (h : Called j b l us put ds) : ∃ x, Demands us x ∧ ds.filterMap Deed.upload? = [(x, b, l)] := by
  obtain ⟨ds', t, x, rfl, ha, hx⟩ := h
  refine ⟨x, hx, ?_⟩
  rw [List.filterMap_append, ha.uploads]
  rfl

theorem Called.uploads_append {us : List VerdictResponse} {put : Except Error Upload.Put}
    (h : Called j b l us put ds) {ds' : List (Deed τ)} (hds : ds'.filterMap Deed.upload? = []) :
    ∃ x, Demands us x ∧ (ds ++ ds').filterMap Deed.upload? = [(x, b, l)] := by
  obtain ⟨x, hx, hu⟩ := h.uploads
  exact ⟨x, hx, by rw [List.filterMap_append, hu, hds, List.append_nil]⟩

/-- A caller that has ended has uploaded if and only if this was demanded, if it has waited at all. -/
theorem Ends.uploads (h : Ends j b l vs why ds r) :
    ds.filterMap Deed.upload? = [] ∧
        ((∃ t, .waits .first t ∈ ds) → ∀ x, ¬Demands (vs .first) x) ∨
      ∃ x, Demands (vs .first) x ∧ ds.filterMap Deed.upload? = [(x, b, l)] := by
  cases h with
  | unsent h _ =>
    obtain rfl | ⟨t, rfl⟩ := h <;> exact .inl ⟨rfl, fun ⟨t, ht⟩ ↦ by simp at ht⟩
  | silent _ hf hv =>
    refine .inl ⟨hf.uploads, fun _ x hx ↦ ?_⟩
    obtain ⟨v, hv', -⟩ := hx
    rw [hv] at hv'
    cases hv'
  | direct ha hv hu =>
    refine .inl ⟨ha.uploads, fun _ x hx ↦ ?_⟩
    obtain ⟨v, hv', hu', -⟩ := hx
    rw [Option.some_inj.1 (hv.symm.trans hv')] at hu
    exact hu hu'
  | noTarget ha hv _ hx =>
    refine .inl ⟨ha.uploads, fun _ x hx' ↦ ?_⟩
    obtain ⟨v, hv', -, hx'⟩ := hx'
    rw [← Option.some_inj.1 (hv.symm.trans hv'), hx] at hx'
    cases hx'
  | unstarted h => exact .inr h.uploads
  | failed h => exact .inr (h.uploads_append rfl)
  | lapsed h _ hf => exact .inr (h.uploads_append hf.uploads)
  | final h _ hs => exact .inr (h.uploads_append hs.uploads)

theorem Phase.OnCourse.uploads (h : p.OnCourse j b l vs why ds s) :
    ds.filterMap Deed.upload? = [] ∨
      ∃ x, Demands (vs .first) x ∧ ds.filterMap Deed.upload? = [(x, b, l)] := by
  cases p with
  | check | register =>
    obtain ⟨-, rfl⟩ := h
    exact .inl rfl
  | send =>
    obtain ⟨-, t, u, rfl, -⟩ := h
    exact .inl rfl
  | await j' st k w =>
    cases st with
    | first =>
      obtain ⟨-, t₁, t₂, d, rfl, -⟩ := h
      exact .inl rfl
    | final =>
      obtain ⟨-, ds', put, t, d, rfl, hc, -⟩ := h
      exact .inr (hc.uploads_append rfl)
  | expire j' st k =>
    cases st with
    | first =>
      obtain ⟨-, t₁, t₂, t₃, d, rfl, -⟩ := h
      exact .inl rfl
    | final =>
      obtain ⟨-, ds', put, t₁, t₂, d, rfl, hc, -⟩ := h
      exact .inr (hc.uploads_append rfl)
  | registerFinal =>
    obtain ⟨-, -, -, ha, -⟩ := h
    exact .inl ha.uploads
  | upload =>
    obtain ⟨-, -, -, ds', t, rfl, ha, -⟩ := h
    exact .inl (by rw [List.filterMap_append, ha.uploads]; rfl)
  | uploading =>
    obtain ⟨-, put, hc⟩ := h
    exact .inr hc.uploads
  | restart =>
    obtain ⟨-, ds', put, rfl, hc⟩ := h
    exact .inr (hc.uploads_append rfl)
  | abandon | ended => exact (Ends.uploads h).imp_left And.left
  | _ => exact h.elim

def Phase.rest : Phase τ → Nat
  | .ask _ => 12
  | .check _ => 11
  | .register _ => 10
  | .send _ _ => 9
  | .await _ .first _ _ => 8
  | .expire _ .first _ => 7
  | .registerFinal _ _ _ _ => 6
  | .upload _ _ _ _ _ => 5
  | .uploading _ _ _ _ => 4
  | .restart _ _ => 3
  | .await _ .final _ _ => 2
  | .expire _ .final _ | .abandon _ _ => 1
  | _ => 0

/-- A caller waits on, having heard the responses `vs st` at each stage: it has heard none that it
accepts and can be made to wait for one, or its time is not over, or it has yet to notice a response. -/
inductive Phase.WaitsOn (vs : Stage → List VerdictResponse) (s : Session τ) : Phase τ → Signal → Prop
  | unanswered {j st k w t} (h : (vs st).find? st.accepts = none) (ht : s.correlator.ticket? k = some t)
      (hlong : Correlator.outlasts s.now t = false) : WaitsOn vs s (.await j st k w) .go
  | early {j st k w} (h : Clock.lt s.now w = true) : WaitsOn vs s (.await j st k w) .struck
  | answered {j st k w v} (h : (vs st).find? st.accepts = some v) : WaitsOn vs s (.await j st k w) .struck

omit [Clock τ] in
theorem rest_expire_pos (j : Job τ) (st : Stage) (k : Nat) : 0 < (Phase.expire j st k).rest := by
  cases st <;> simp [Phase.rest]

omit [Clock τ] in
theorem rest_expire_lt (j : Job τ) (st : Stage) (k : Nat) (w : τ) :
    (Phase.expire j st k).rest < (Phase.await j st k w).rest := by
  cases st <;> simp [Phase.rest]

omit [Clock τ] in
theorem rest_received (j : Job τ) (st : Stage) (a : Except Error VerdictResponse) (k : Nat) :
    (received j st a).rest < (Phase.expire j st k).rest := by
  unfold received
  split
  · exact rest_expire_pos ..
  · split
    · split
      · split <;> simp [Phase.rest]
      · exact rest_expire_pos ..
    · exact rest_expire_pos ..

omit [Clock τ] in
theorem rest_uploadFailed (j : Job τ) (e : Error) : (uploadFailed j e).rest ≤ 1 := by
  cases e <;> simp [uploadFailed, Phase.rest]

/-- With every signal that it takes an asking caller comes nearer to its end, or it waits on. -/
theorem Advance.rest_lt (h : Advance n s p sig p' s') (hl : Ledger s os) (hc : Clear n s)
    (hh : Heard n s vs) (hp : s.callers[n]? = some p) : p'.rest < p.rest ∨ p.WaitsOn vs s sig := by
  cases h with
  | @linger j st k w sig hlin =>
    obtain ⟨-, ⟨t, ht, -⟩, -⟩ := hl.held hp rfl
    obtain ⟨rfl, hnone⟩ | ⟨rfl, hlt | ⟨u, hu, ho⟩⟩ := hlin
    · obtain ⟨ho, hlong⟩ := awaitSettled_eq_none_iff.1 hnone t ht
      exact .inr (.unanswered ((hh.answered hp rfl ht).1 ho) ht hlong)
    · exact .inr (.early hlt)
    · obtain ⟨v, hv⟩ := ((hc.holds hp rfl).2 u hu).resolve_left ho
      exact .inr (.answered ((hh.answered hp rfl hu).2 v hv).1)
  | settle => exact .inl (Nat.lt_trans (rest_received ..) (rest_expire_lt ..))
  | balk => exact .inl (Nat.zero_lt_of_lt (rest_expire_lt ..))
  | strike => exact .inl (rest_expire_lt ..)
  | expire => exact .inl (rest_received ..)
  | lose hk =>
    obtain ⟨-, ⟨t, ht, -⟩, -⟩ := hl.held hp rfl
    cases ht.symm.trans hk
  | failUpload | refuseUpload => exact .inl (Nat.lt_of_le_of_lt (rest_uploadFailed ..) (by simp [Phase.rest]))
  | _ => exact .inl (by simp [Phase.rest])

omit [Clock τ] in
theorem exists_takes (hp : p.IsAsk) : ∃ sig, p.Takes sig := by
  cases p with
  | send => exact ⟨.written none, trivial⟩
  | uploading => exact ⟨.answered (.ok (.ofUtf8 200 [])), trivial⟩
  | ask | check | register | await | expire | registerFinal | upload | restart | abandon =>
    exact ⟨.go, trivial⟩
  | _ => exact hp.elim

variable {settings : Settings τ} {files : FileSystem} {es : List (Event τ)} {a : Ask τ}

/-- A caller with something to upload whose request is made and whom nobody disturbs calls for one
upload at most: of its own content, to the target that the first response to its guid demands. It ends
as that response, the upload and the responses from then on tell, and not without the upload demanded
if it has waited. Before it has ended, every signal that it takes brings it nearer to its end, but
while it waits. -/
theorem uploads_on_demand (h : Occurs (Prepares n a j) (start settings files) es)
    (ha : a.query.content? = some (b, l)) (hu : Undisturbed n (start settings files) es) :
    ∃ p, ((start settings files).run es).callers[n]? = some p ∧
      (uploads n (start settings files) es = [] ∨
        ∃ x, Demands (heard n .first (start settings files) es) x ∧
          uploads n (start settings files) es = [(x, b, l)]) ∧
      (∀ r, p = .ended r →
        Ends j b l (heard n · (start settings files) es)
          (fun r ↦ Occurs (Hindered n · · r) (start settings files) es)
          (deeds n (start settings files) es) r ∧
        ∀ t x, .waits .first t ∈ deeds n (start settings files) es →
          Demands (heard n .first (start settings files) es) x →
          uploads n (start settings files) es ≠ []) ∧
      ((∀ r, p ≠ .ended r) → (∃ sig, p.Takes sig) ∧ ∀ sig, p.Takes sig →
        p.WaitsOn (heard n · (start settings files) es) ((start settings files).run es) sig ∨
          ∃ p', ((start settings files).run (es ++ [.move n sig])).callers[n]? = some p' ∧
            p'.rest < p.rest) := by
  obtain ⟨p, hp, hcourse⟩ := onCourse_run h ha hu
  refine ⟨p, hp, hcourse.uploads, ?_, fun hne ↦ ?_⟩
  · rintro r rfl
    have hends : Ends j b l (heard n · (start settings files) es) _ _ r := hcourse
    refine ⟨hends, fun t x ht hx hnone ↦ ?_⟩
    obtain ⟨-, hno⟩ | ⟨y, -, hy⟩ := hends.uploads
    · exact hno ⟨t, ht⟩ x hx
    · rw [uploads, hy] at hnone
      cases hnone
  · have hask : p.IsAsk := hcourse.isAsk_or_ended.resolve_right fun ⟨r, hr⟩ ↦ hne r hr
    refine ⟨exists_takes hask, fun sig ht ↦ ?_⟩
    obtain hlt | hw := (advance_moved n _ hask ht).rest_lt (ledger_run settings files es)
      (clear_run hu) (heard_run settings files n es) hp
    · refine .inr ⟨_, ?_, hlt⟩
      rw [run_concat, callers_step_move, if_pos rfl, hp, Option.map_some]
    · exact .inl hw

def Sample.storing : List (Event Int) :=
  opening ++ asking 1 (.stream [] none) "g" ++
    [.move 1 (.written none), .frame (demand "g"), .move 1 .go, .move 1 .go, .move 1 .go,
      .frame (answer "g" "Unknown"), .frame (answer "g" "Clean"),
      .move 1 (.answered (.ok (.ofUtf8 200 []))), .move 1 .go, .move 1 .go]

set_option maxRecDepth 100000 in
theorem uploads_on_demand_storing :
    Ends ⟨⟨"s", .stream, "g", none, none⟩, some (.stream [], none), .after 10⟩ (.stream []) none
      (heard 1 · (start Sample.settings .empty) Sample.storing)
      (fun r ↦ Occurs (Hindered 1 · · r) (start Sample.settings .empty) Sample.storing)
      (deeds 1 (start Sample.settings .empty) Sample.storing)
      (.ok (some ⟨[], .clean, none⟩)) ∧
    uploads 1 (start Sample.settings .empty) Sample.storing = [(⟨"a", "b"⟩, .stream [], none)] := by
  have hprep : Occurs (Prepares 1 ⟨.stream [] none, .text "g", none⟩
      ⟨⟨"s", .stream, "g", none, none⟩, some (.stream [], none), .after 10⟩)
      (start Sample.settings .empty) Sample.storing :=
    Sample.prepares_asking (by rfl) (by rfl) _
  have hu : Undisturbed 1 (start Sample.settings .empty) Sample.storing := by decide +kernel
  have hn : ((start Sample.settings .empty).run Sample.storing).callers[1]? =
      some (.ended (.ok (some ⟨[], .clean, none⟩))) := by rfl
  obtain ⟨p, hp, -, hends, -⟩ := uploads_on_demand hprep rfl hu
  obtain rfl : p = .ended (.ok (some ⟨[], .clean, none⟩)) := Option.some_inj.1 (hp.symm.trans hn)
  exact ⟨(hends _ rfl).1, by rfl⟩

/-- A caller begins to wait for longer than anyone can be made to, and then its upload is demanded. -/
def Sample.overstretched : List (Event Int) :=
  opening ++ asking 1 (.stream [] none) "g" ++
    [.move 1 (.written none), .move 1 .go, .frame (demand "g")]

set_option maxRecDepth 100000 in
theorem Sample.overstretched_ended :
    ((start Sample.boundless .empty).run Sample.overstretched).callers[1]? =
        some (.ended (.error (.timeoutRange false))) ∧
      uploads 1 (start Sample.boundless .empty) Sample.overstretched = [] :=
  ⟨by rfl, by rfl⟩

set_option maxRecDepth 100000 in
/-- A caller may have ended without the upload that is demanded of it before its first deadline. -/
theorem not_always_demanded : ¬∀ (settings : Settings Int) (es : List (Event Int)) (n : Nat)
    (a : Ask Int) (j : Job Int) (b : Upload.Content) (l : Option Value) (t u d : Int)
    (x : Upload.Target) (r : Except Error (Option Classification)),
    Occurs (Prepares n a j) (start settings .empty) es → a.query.content? = some (b, l) →
    Undisturbed n (start settings .empty) es →
    [.registers .first t, .waits .first u] <+: deeds n (start settings .empty) es →
    Correlator.deadline t j.timeout = .ok d → ((start settings .empty).run es).now < d →
    Demands ((observed dispatched? (start settings .empty) es).filter (·.guid = j.request.guid)) x →
    ((start settings .empty).run es).callers[n]? = some (.ended r) →
    uploads n (start settings .empty) es = [(x, b, l)] := by
  intro h
  obtain ⟨hn, hnone⟩ := Sample.overstretched_ended
  have hprep : Occurs (Prepares 1 ⟨.stream [] none, .text "g", none⟩
      ⟨⟨"s", .stream, "g", none, none⟩, some (.stream [], none), .after 10000000000⟩)
      (start Sample.boundless .empty) Sample.overstretched :=
    Sample.prepares_asking (by rfl) (by rfl) _
  have hu : Undisturbed 1 (start Sample.boundless .empty) Sample.overstretched := by decide +kernel
  have hr : [.registers .first 0, .waits .first 0] <+:
      deeds 1 (start Sample.boundless .empty) Sample.overstretched := ⟨_, by rfl⟩
  have hd : Demands ((observed dispatched? (start Sample.boundless .empty)
      Sample.overstretched).filter (·.guid = ("g" : Text))) ⟨"a", "b"⟩ :=
    ⟨⟨"g", .unknown, [], none, some "a", some "b"⟩, by decide +kernel, rfl, by decide +kernel⟩
  cases hnone.symm.trans (h _ _ 1 _ _ _ _ _ _ _ _ _ hprep rfl hu hr rfl (by decide) hd hn)

end VerdictClient.Session
