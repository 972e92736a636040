import Mathlib.Data.List.Induction
import VerdictClient.Session.Event

namespace VerdictClient.Session

variable {τ α : Type} [Clock τ]

@[simp]
theorem run_nil (s : Session τ) : s.run [] = s := rfl

@[simp]
theorem run_cons (s : Session τ) (e : Event τ) (es : List (Event τ)) :
    s.run (e :: es) = (s.step e).run es := rfl

theorem run_append (s : Session τ) (es fs : List (Event τ)) :
    s.run (es ++ fs) = (s.run es).run fs := by
  simp only [run, List.foldl_append]

theorem run_concat (s : Session τ) (es : List (Event τ)) (e : Event τ) :
    s.run (es ++ [e]) = (s.run es).step e := by
  rw [run_append, run_cons, run_nil]

/-- What an observer notes along a run who may note something at every event. -/
def observed (view : Session τ → Event τ → Option α) (s : Session τ) : List (Event τ) → List α
  | [] => []
  | e :: es => (view s e).toList ++ observed view (s.step e) es

@[simp]
theorem observed_nil (view : Session τ → Event τ → Option α) (s : Session τ) :
    observed view s [] = [] := rfl

theorem observed_append (view : Session τ → Event τ → Option α) (s : Session τ)
    (es fs : List (Event τ)) :
    observed view s (es ++ fs) = observed view s es ++ observed view (s.run es) fs := by
  induction es generalizing s with
  | nil => rfl
  | cons e es ih => simp only [List.cons_append, observed, ih, run_cons, List.append_assoc]

theorem observed_concat (view : Session τ → Event τ → Option α) (s : Session τ)
    (es : List (Event τ)) (e : Event τ) :
    observed view s (es ++ [e]) = observed view s es ++ (view (s.run es) e).toList := by
  simp only [observed_append, observed, List.append_nil]

theorem observed_concat_none {view : Session τ → Event τ → Option α} {s : Session τ}
    {es : List (Event τ)} {e : Event τ} (h : view (s.run es) e = none) :
    observed view s (es ++ [e]) = observed view s es := by
  simp only [observed_concat, h, Option.toList_none, List.append_nil]

/-- Some event of a run stands in a relation to the session that it finds. -/
def Occurs (P : Session τ → Event τ → Prop) (s : Session τ) (es : List (Event τ)) : Prop :=
  ∃ es₁ e es₂, es = es₁ ++ e :: es₂ ∧ P (s.run es₁) e

theorem not_occurs_nil {P : Session τ → Event τ → Prop} {s : Session τ} : ¬Occurs P s [] := by
  rintro ⟨es₁, e, es₂, h, -⟩
  simp at h

omit [Clock τ] in
theorem eq_of_concat_eq {es es₁ es₂ : List (Event τ)} {e e' : Event τ}
    (h : es ++ [e] = es₁ ++ e' :: es₂) : es₁ = es ∧ e' = e ∨ ∃ es₃, es = es₁ ++ e' :: es₃ := by
  rcases List.eq_nil_or_concat es₂ with rfl | ⟨es₃, e₃, rfl⟩
  · obtain ⟨rfl, he⟩ := List.append_inj' h rfl
    exact .inl ⟨rfl, (List.head_eq_of_cons_eq he).symm⟩
  · rw [List.concat_eq_append, ← List.cons_append, ← List.append_assoc] at h
    exact .inr ⟨es₃, (List.append_inj' h rfl).1⟩

theorem occurs_concat {P : Session τ → Event τ → Prop} {s : Session τ} {es : List (Event τ)}
    {e : Event τ} : Occurs P s (es ++ [e]) ↔ Occurs P s es ∨ P (s.run es) e := by
  constructor
  · rintro ⟨es₁, e', es₂, h, hP⟩
    obtain ⟨rfl, rfl⟩ | ⟨es₃, h⟩ := eq_of_concat_eq h
    · exact .inr hP
    · exact .inl ⟨es₁, e', es₃, h, hP⟩
  · rintro (⟨es₁, e', es₂, rfl, hP⟩ | hP)
    · exact ⟨es₁, e', es₂ ++ [e], by simp, hP⟩
    · exact ⟨es, e, [], rfl, hP⟩

theorem Occurs.concat {P : Session τ → Event τ → Prop} {s : Session τ} {es : List (Event τ)}
    (h : Occurs P s es) (e : Event τ) : Occurs P s (es ++ [e]) :=
  occurs_concat.2 (.inl h)

theorem Occurs.append {P : Session τ → Event τ → Prop} {s : Session τ} {es : List (Event τ)}
    (h : Occurs P s es) (fs : List (Event τ)) : Occurs P s (es ++ fs) := by
  obtain ⟨es₁, e, es₂, rfl, he⟩ := h
  exact ⟨es₁, e, es₂ ++ fs, by simp, he⟩

theorem occurs_append {P : Session τ → Event τ → Prop} {s : Session τ} {es fs : List (Event τ)} :
    Occurs P s (es ++ fs) ↔ Occurs P s es ∨ Occurs P (s.run es) fs := by
  induction fs using List.reverseRecOn with
  | nil => simp only [List.append_nil, not_occurs_nil, or_false]
  | append_singleton fs e ih =>
    rw [← List.append_assoc, occurs_concat, ih, occurs_concat, run_append, or_assoc]

/-- How often caller `n` goes on. -/
def goes (n : Nat) (es : List (Event τ)) : Nat :=
  es.countP fun
    | .move m .go => m == n
    | _ => false

variable {n k : Nat}

omit [Clock τ] in
theorem goes_append (n : Nat) (es fs : List (Event τ)) : goes n (es ++ fs) = goes n es + goes n fs :=
  List.countP_append

omit [Clock τ] in
theorem goes_move_le (n : Nat) (sig : Signal) : goes n [(.move n sig : Event τ)] ≤ 1 :=
  List.countP_le_length

omit [Clock τ] in
theorem le_sub_goes {e : Event τ} (h : e = .move n .go → k = 0) : k ≤ k - goes n [e] := by
  by_cases he : e = .move n .go
  · exact (h he).symm ▸ Nat.zero_le _
  · have hz : goes n [e] = 0 := by
      unfold goes
      rw [List.countP_eq_zero]
      intro e' he'
      obtain rfl := List.mem_singleton.1 he'
      split
      · next m =>
        have hm : m ≠ n := by
          rintro rfl
          exact he rfl
        simpa using hm
      · simp
    rw [hz]
    exact Nat.le_refl k

/-- A caller that takes one of its last `k` steps whenever it goes on has so many less left after a
run. -/
theorem goes_run {s : Session τ} {p : Phase τ} {P : List (Event τ) → Nat → Phase τ → Prop}
    {A : Event τ → Prop} (hstep : ∀ {es : List (Event τ)} {k : Nat} {p : Phase τ} {e : Event τ},
      A e → (s.run es).callers[n]? = some p → P es k p →
        ∃ k' p', (s.run (es ++ [e])).callers[n]? = some p' ∧ P (es ++ [e]) k' p' ∧
          k' ≤ k - goes n [e])
    {es : List (Event τ)} (hp : (s.run es).callers[n]? = some p) (h : P es k p) (fs : List (Event τ))
    (hok : ∀ e ∈ fs, A e) :
    ∃ k' p', (s.run (es ++ fs)).callers[n]? = some p' ∧ P (es ++ fs) k' p' ∧ k' ≤ k - goes n fs := by
  induction fs using List.reverseRecOn with
  | nil =>
    rw [List.append_nil]
    exact ⟨k, p, hp, h, Nat.le_refl k⟩
  | append_singleton fs e ih =>
    obtain ⟨k₁, p₁, hp₁, h₁, hk₁⟩ := ih fun e' he' ↦ hok e' (List.mem_append_left _ he')
    obtain ⟨k₂, p₂, hp₂, h₂, hk₂⟩ := hstep (hok e (by simp)) hp₁ h₁
    rw [← List.append_assoc]
    refine ⟨k₂, p₂, hp₂, h₂, ?_⟩
    rw [goes_append]
    omega

namespace Sample

def settings : Settings Int := ⟨.text [], .after 10, .null, .null, .null, .null⟩

/-- The session is to wait for longer than anyone can be made to. -/
def boundless : Settings Int := { settings with timeout := .after 10000000000 }

def opening : List (Event Int) :=
  [.call (.connect (.text "t")), .move 0 .go, .move 0 (.opened none), .move 0 .go, .move 0 .go,
    .move 0 (.written none),
    .frame (.text "\x7b\"kind\":\"AuthResponse\",\"success\":true,\"session_id\":\"s\"\x7d"),
    .move 0 .go, .move 0 .go]

/-- Caller `n` comes with a question and goes on until it is about to write its frame. -/
def asking (n : Nat) (query : Query) (guid : Text) : List (Event Int) :=
  [.call (.ask ⟨query, .text guid, none⟩), .move n .go, .move n .go, .move n .go]

def answer (guid verdict : Text) : Frame :=
  .text ("\x7b\"kind\":\"VerdictResponse\",\"sha256\":\"\",\"guid\":\"" ++ guid ++
    "\",\"verdict\":\"" ++ verdict ++ "\"\x7d")

def demand (guid : Text) : Frame :=
  .text ("\x7b\"kind\":\"VerdictResponse\",\"sha256\":\"\",\"guid\":\"" ++ guid ++
    "\",\"verdict\":\"Unknown\",\"url\":\"a\",\"upload_token\":\"b\"\x7d")

end Sample

end VerdictClient.Session
