import VerdictClient.Proofs.Session.Needs

namespace VerdictClient

def Clock.IsStrict (τ : Type) [Clock τ] : Prop := ∀ t : τ, Clock.lt t t = false

theorem Clock.isStrict_float : Clock.IsStrict Float := by
  intro t
  have hself (a : Float.Model.UnpackedFloat) : a.lt a = false := by
    unfold Float.Model.UnpackedFloat.lt Float.Model.UnpackedFloat.compare
    cases a with
    | finite s m e => cases s <;> simp [compare, compareOfLessAndEq]
    | infinity s => cases s <;> decide
    | zero | notANumber => rfl
  have hlt : Float.lt t t = false := decide_eq_false (by
    show ¬t.toModel.unpack.lt t.toModel.unpack = true
    rw [hself]
    exact Bool.false_ne_true)
  exact decide_eq_false fun h ↦ Bool.false_ne_true (hlt.symm.trans h)

namespace Session

variable {τ : Type} [Clock τ] {s : Session τ} {n m a : Nat} {p : Phase τ}

theorem put_step {e : Event τ} {y : Nat × Upload.Put} (h : y ∈ s.puts) : y ∈ (s.step e).puts := by
  obtain hs | ⟨_, _, _, _, _, _, _, -, -, hs⟩ := s.puts_step e
  · rw [hs]
    exact h
  · rw [hs]
    exact List.mem_append_left _ h

theorem Advance.put {s' : Session τ} {p' : Phase τ} {sig : Signal} (h : Advance n s p sig p' s')
    {j : Job τ} {k : Nat} {x : Upload.Target} {b : Upload.Content} (hp' : p' = .uploading j k x b) :
    ∃ put, (n, put) ∈ s'.puts := by
  cases h with
  | upload => exact ⟨_, List.mem_append_right _ (List.mem_singleton.2 rfl)⟩
  | settle | expire =>
    have hhold := congrArg Phase.hold? hp'
    rw [hold?_received] at hhold
    cases hhold
  | failUpload | refuseUpload =>
    have hhold := congrArg Phase.hold? hp'
    rw [hold?_uploadFailed] at hhold
    cases hhold
  | _ => cases hp'

theorem Reached.put (h : Reached s) {j : Job τ} {k : Nat} {x : Upload.Target} {b : Upload.Content}
    (hp : s.callers[n]? = some (.uploading j k x b)) : ∃ put, (n, put) ∈ s.puts := by
  obtain ⟨settings, files, es, rfl⟩ := h
  induction es using List.reverseRecOn with
  | nil => simp [start] at hp
  | append_singleton es e ih =>
    have ha : (Phase.uploading j k x b).IsAsk := trivial
    rw [run_concat] at hp ⊢
    obtain ⟨hsame, -⟩ | ⟨q, sig, rfl, -, -, hq, hadv⟩ | ⟨a, -, -, hnew⟩ := ask_step ha hp
    · obtain ⟨put, hput⟩ := ih hsame
      exact ⟨put, put_step hput⟩
    · rw [step_move hq]
      exact hadv.put rfl
    · cases hnew

theorem clock_step (hs : Clock.IsStrict τ) (s : Session τ) (wake : τ) :
    Clock.lt (s.step (.clock wake)).now wake = false := by
  simp only [step]
  split
  · exact hs wake
  · next h => simpa using h

theorem needs_struck_lt {wake : τ} (hp : s.callers[n]? = some p) (hw : p.isWait = true)
    (hset : s.isSettled p = false) (hwake : p.wake? = some wake) (hlt : Clock.lt s.now wake = false) :
    (s.step (.move n .struck)).needs a < s.needs a := by
  cases p with
  | awaitAuth w k =>
    obtain rfl : k = some wake := hwake
    have hpend : (s.receiver.waiters.getD w .pending).isPending = true := by
      simpa [isSettled] using hset
    have hmoved : s.moved n (.awaitAuth w (some wake)) .struck = (.giveUp w, s) :=
      if_neg (by rw [hlt, hpend]; decide)
    apply needs_move_lt hp rfl
    rw [hmoved]
    exact Nat.zero_lt_one
  | await j st k w =>
    obtain rfl : w = wake := Option.some_inj.1 hwake
    have hpend : (s.correlator.ticket? k).any (!·.outcome.isPending) = false := hset
    have hmoved : s.moved n (.await j st k w) .struck = (.expire j st k, s) :=
      if_neg (by rw [hlt, hpend]; decide)
    have hless := needs_expire j st k w
    apply needs_move_lt hp rfl
    rw [hmoved]
    exact Nat.lt_of_succ_le (Nat.le_of_eq hless)
  | _ => cases hw

namespace Scene

variable {x y : Scene τ} {limit wake : τ}

theorem of_nextExpiry (h : x.nextExpiry limit = some (n, wake)) :
    x.isPending n = true ∧ (x.phase? n).bind Phase.wake? = some wake := by
  let P (best : Option (Nat × τ)) : Prop := ∀ m w, best = some (m, w) →
    x.isPending m = true ∧ (x.phase? m).bind Phase.wake? = some w
  have hP : P (x.nextExpiry limit) := by
    refine List.foldlRecOn x.waiting _ (motive := P) (fun m w hm ↦ by cases hm) fun best hb m _ ↦ ?_
    split
    · exact hb
    · next hm =>
      have hpend : x.isPending m = true := by
        simp only [Bool.or_eq_true, Bool.not_eq_true', not_or, Bool.not_eq_false] at hm
        exact hm.2
      split
      · exact hb
      · next w hw =>
        split
        · intro _ _ hnone
          cases hnone
        · intro _ _ hsome
          cases hsome
          exact ⟨hpend, hw⟩
      · next w _ first hw =>
        split
        · intro _ _ hsome
          cases hsome
          exact ⟨hpend, hw⟩
        · exact hb
  exact hP n wake h

theorem nextExpiry_ne_none (hm : m ∈ x.waiting) (hheld : x.held = []) (hpend : x.isPending m = true)
    (hwake : (x.phase? m).bind Phase.wake? = some wake) (hlt : Clock.lt limit wake = false) :
    x.nextExpiry limit ≠ none := by
  obtain ⟨before, after, hsplit⟩ := List.append_of_mem hm
  unfold nextExpiry
  rw [hsplit, List.foldl_append, List.foldl_cons]
  -- From this caller on there is a best one.
  refine List.foldlRecOn after _ (motive := fun best ↦ best ≠ none) ?_ fun best hb a _ ↦ ?_
  · generalize before.foldl _ none = best
    simp only [hheld, hpend, hwake, List.contains_nil, Bool.not_true, Bool.or_self,
      Bool.false_eq_true, if_false]
    cases best with
    | none => simp [hlt]
    | some y =>
      dsimp only
      split <;> simp
  · split
    · exact hb
    · split
      · exact hb
      · exact absurd rfl hb
      · split
        · simp
        · exact hb

/-- Time that passes until a wait is over ends a wait. -/
theorem needs_moveTo_lt (hs : Clock.IsStrict τ) (h : Calm x) (hm : m ∈ x.waiting)
    (hwake : (x.phase? m).bind Phase.wake? = some limit) {fuel : Nat} (hf : 0 < fuel) :
    (x.moveTo limit fuel).session.needs a < x.session.needs a := by
  obtain ⟨q, hq, hqw⟩ := (Option.any_eq_true _ _).1 (h.waits hm)
  obtain ⟨fuel, rfl⟩ := Nat.exists_eq_succ_of_ne_zero (Nat.ne_of_gt hf)
  unfold moveTo
  split
  · next hnone =>
    exact absurd hnone
      (nextExpiry_ne_none hm h.released.2 (h.isPending hq hqw) hwake (hs limit))
  · next n wake hnext =>
    obtain ⟨hpend, hw⟩ := of_nextExpiry hnext
    obtain ⟨p, hp, hpw⟩ := Option.bind_eq_some_iff.1 hw
    obtain ⟨p', hp', hwait⟩ := (Option.any_eq_true _ _).1 hpend
    obtain rfl := Option.some_inj.1 (hp.symm.trans hp')
    rw [Bool.and_eq_true, Bool.not_eq_true'] at hwait
    -- The clock only moves, so the caller still waits for what is not settled.
    have hcallers : (x.session.step (.clock wake)).callers[n]? = some p := by
      rw [callers_step_of_not_move (by simp) (by simp)]
      exact hp
    have hset : (x.session.step (.clock wake)).isSettled p = false := by
      rw [← hwait.2]
      simp only [step]
      split <;> rfl
    have hstruck := needs_struck_lt (a := a) hcallers hwait.1 hset hpw (clock_step hs x.session wake)
    have hclock : (x.session.step (.clock wake)).needs a ≤ x.session.needs a := needs_step rfl _
    have hafter := (continues_happen (.move n .struck) (x.after (.clock wake))).needs_le (a := a)
    have hrest := (continues_moveTo limit fuel
      ((x.after (.clock wake)).happen (.move n .struck))).needs_le (a := a)
    rw [session_after] at hafter
    omega

theorem needs_finishUpload_lt {o : Http.Outcome} (h : x.finishUpload n o = some y) :
    y.session.needs a < x.session.needs a := by
  unfold finishUpload at h
  split at h
  · next j k t b hp =>
    cases h
    have hrest := (continues_happen (.move n (.answered o)) x).needs_le (a := a)
    have hmove : (x.session.step (.move n (.answered o))).needs a < x.session.needs a := by
      refine needs_move_lt hp rfl ?_
      simp only [moved, uploadingStep]
      split
      · rw [needs_uploadFailed]
        exact Nat.zero_lt_two
      · exact Nat.one_lt_two
    omega
  · cases h

end Scene

namespace Conversation

variable {w : Service} {c c' : Conversation τ}

/-- How many responses are due at most. -/
def due (c : Conversation τ) : Nat := c.scene.session.needs c.answered

theorem calm_deliver (fs : List Frame) {x : Scene τ} (h : x.Calm) : (deliver fs x).Calm := by
  induction fs generalizing x with
  | nil => exact h
  | cons f fs ih => exact ih h.deliver

/-- After every response the scene is calm again, and there is one less due. -/
theorem calm_respond (hs : Clock.IsStrict τ) (h : c.scene.Calm) (hr : c.respond w = some c') :
    c'.scene.Calm ∧ c'.due < c.due := by
  unfold respond at hr
  split at hr
  · next frame rest hdrop =>
    cases hr
    refine ⟨calm_deliver _ h, ?_⟩
    have hneeds := (continues_deliver (w.answer frame) c.scene).needs_le (a := c.answered + 1)
    have hlen : c.answered < c.scene.session.taken.length := by
      refine Nat.lt_of_not_le fun hle ↦ ?_
      have hnil : c.scene.session.taken.drop c.answered = [] := List.drop_eq_nil_of_le hle
      cases hnil.symm.trans hdrop
    unfold due needs at *
    dsimp only at *
    omega
  · split at hr
    · next n guid put _ =>
      dsimp only at hr
      obtain ⟨y, hy, rfl⟩ := Option.map_eq_some_iff.1 hr
      have hcalm := calm_deliver (w.upload guid put).1 h
      have hneeds := (continues_deliver (w.upload guid put).1 c.scene).needs_le (a := c.answered)
      exact ⟨hcalm.toTidy.finishUpload hy, Nat.lt_of_lt_of_le (Scene.needs_finishUpload_lt hy) hneeds⟩
    · obtain ⟨y, hy, rfl⟩ := Option.map_eq_some_iff.1 hr
      obtain ⟨limit, hlimit, rfl⟩ := Option.map_eq_some_iff.1 hy
      obtain ⟨m, hm, hwake⟩ := List.mem_filterMap.1 (List.mem_of_head? hlimit)
      obtain ⟨p, hp, -⟩ := Option.bind_eq_some_iff.1 hwake
      have hpos : 0 < c.scene.session.callers.length :=
        Nat.zero_lt_of_lt (List.getElem?_eq_some_iff.1 hp).1
      exact ⟨h.toTidy.moveTo _ _, Scene.needs_moveTo_lt hs h hm hwake hpos⟩

end Conversation

end Session

end VerdictClient
