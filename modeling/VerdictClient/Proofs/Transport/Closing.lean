import VerdictClient.Proofs.Transport

namespace VerdictClient.Transport

def reports : List Call → Transport → List Failure
  | [], _ => []
  | c :: cs, t => (if t.reaches c then c.failure?.toList else []) ++ reports cs (t.perform c).2

variable {t : Transport} {c : Call} {cs : List Call} {f : Failure}

/-- The first call that closes a transport decides whether the connection is told. -/
theorem closes_run (h : t.closed = false) (cs : List Call) :
    (t.run cs).closes = t.closes + ((cs.find? Call.latches).any Call.isClose).toNat := by
  induction cs generalizing t with
  | nil => rfl
  | cons c cs ih =>
    have hc : t.run (c :: cs) = (t.perform c).2.run cs := rfl
    have hp := perform_of_open h c
    rw [hc, List.find?_cons]
    cases hl : c.latches with
    | true =>
      have hclosed : (t.perform c).2.closed = true := by rw [hp, hl]
      rw [run_of_closed hclosed, hp]
      rfl
    | false =>
      have hopen : (t.perform c).2.closed = false := by rw [hp, hl]
      have hno : c.isClose = false := (Bool.or_eq_false_iff.1 hl).1
      rw [ih hopen, hp, hno]
      rfl

theorem mem_reports (h : t.closed = false) (hc : cs.find? Call.latches = some c)
    (hf : c.failure? = some f) : f ∈ t.reports cs := by
  induction cs generalizing t with
  | nil => cases hc
  | cons d ds ih =>
    have hp := perform_of_open h d
    rw [List.find?_cons] at hc
    rw [reports, List.mem_append]
    cases hl : d.latches with
    | true =>
      obtain rfl : d = c := by simpa [hl] using hc
      have hr : t.reaches d = true := by
        cases d <;> simp [reaches, h]
      left
      simp [hr, hf]
    | false =>
      have hopen : (t.perform d).2.closed = false := by rw [hp, hl]
      rw [hl] at hc
      exact .inr (ih hopen hc)

theorem exists_of_latches (hl : c.latches = true) (hc : c.isClose = false) :
    ∃ f, c.failure? = some f ∧ f.endsConnection = true := by
  rw [Call.latches, hc, Bool.false_or] at hl
  exact (Option.any_eq_true _ _).1 hl

/-- A connection is told to close at most once. When somebody closes the transport it has been told,
unless a write or a read failed before in a way that ends its use; as long as the connection has not
reported its end, that is a failure of the system below. -/
theorem hangs_up_unless_broken (cs : List Call) :
    (opened.run cs).closes ≤ 1 ∧
    ∀ ds answer es, cs = ds ++ .close answer :: es →
      ((opened.run cs).closes = 1 ↔ ∀ c, ds.find? Call.latches = some c → c.isClose = true) ∧
      ((∀ f ∈ opened.reports ds, f.isClosure = false) →
        ((opened.run cs).closes = 0 ↔ ∃ c f, ds.find? Call.latches = some c ∧ c.isClose = false ∧
          c.failure? = some f ∧ f.isSystem = true)) := by
  have hcloses : (opened.run cs).closes = ((cs.find? Call.latches).any Call.isClose).toNat :=
    (closes_run rfl cs).trans (Nat.zero_add _)
  have hone : (opened.run cs).closes ≤ 1 := by
    rw [hcloses]
    exact Bool.toNat_le _
  refine ⟨hone, fun ds answer es hcs ↦ ?_⟩
  rw [hcs, List.find?_append] at hcloses
  rw [hcs]
  cases hfirst : ds.find? Call.latches with
  | none =>
    -- The attempt to close is the first call that latches.
    rw [hfirst] at hcloses
    have htold : (opened.run (ds ++ .close answer :: es)).closes = 1 := hcloses
    exact ⟨by simp [htold], fun _ ↦ by simp [htold]⟩
  | some c =>
    rw [hfirst] at hcloses
    have htold : (opened.run (ds ++ .close answer :: es)).closes = c.isClose.toNat := hcloses
    refine ⟨by simp [htold], fun hreports ↦ ?_⟩
    rw [htold]
    constructor
    · intro h
      have hc : c.isClose = false := by simpa using h
      obtain ⟨f, hf, hend⟩ := exists_of_latches (List.find?_some hfirst) hc
      have hopen := hreports f (mem_reports rfl hfirst hf)
      rw [Failure.endsConnection, hopen, Bool.false_or] at hend
      exact ⟨c, f, rfl, hc, hf, hend⟩
    · rintro ⟨d, f, hd, hno, -, -⟩
      obtain rfl := Option.some_inj.1 hd
      rw [hno]
      rfl

/-- A read that fails before anything was closed keeps the connection from being told. -/
theorem not_always_hung_up : ¬∀ ds answer, (∀ f ∈ opened.reports ds, f.isClosure = false) →
    (opened.run (ds ++ [.close answer])).closes = 1 := by
  intro h
  have htold := h [.recv (.error (.systemTimeout "slow"))] none (by decide)
  exact absurd htold (by decide)

theorem hangs_up_unless_broken_reset :
    (opened.run [.send "a" (some (.system "reset")), .close none, .close none]).closes = 0 ∧
      (opened.run [.send "a" (some (.closedByPeer)), .close none]).closes = 0 ∧
      (opened.run [.send "a" none, .close none, .recv (.error .closedLocally), .close none]).closes = 1 := by
  obtain ⟨-, hreset⟩ :=
    hangs_up_unless_broken [.send "a" (some (.system "reset")), .close none, .close none]
  obtain ⟨-, hbroken⟩ := hreset [.send "a" (some (.system "reset"))] none [.close none] rfl
  obtain ⟨hle, hgone⟩ := hangs_up_unless_broken [.send "a" (some .closedByPeer), .close none]
  obtain ⟨htold, -⟩ := hgone [.send "a" (some .closedByPeer)] none [] rfl
  obtain ⟨-, hopen⟩ := hangs_up_unless_broken
    [.send "a" none, .close none, .recv (.error .closedLocally), .close none]
  obtain ⟨hclosed, -⟩ := hopen [.send "a" none] none [.recv (.error .closedLocally), .close none] rfl
  refine ⟨(hbroken (by decide)).2 ⟨.send "a" (some (.system "reset")), _, rfl, rfl, rfl, rfl⟩, ?_,
    hclosed.2 fun c hc ↦ (by cases hc)⟩
  have hne : ¬(opened.run [.send "a" (some .closedByPeer), .close none]).closes = 1 := fun h ↦
    Bool.false_ne_true (htold.1 h (.send "a" (some .closedByPeer)) rfl)
  omega

end VerdictClient.Transport
