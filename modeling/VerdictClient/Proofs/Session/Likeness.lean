import Mathlib.Data.List.Forall2
import VerdictClient.Proofs.Message.Agreement
import VerdictClient.Proofs.Session.Step

namespace VerdictClient

/-- The same error, or results that are alike. -/
inductive Both {α : Type} (r : α → α → Prop) : Except Error α → Except Error α → Prop
  | error (e : Error) : Both r (.error e) (.error e)
  | ok {a b : α} (h : r a b) : Both r (.ok a) (.ok b)

/-- What counts as the same in two runs with these files. -/
structure Likeness (files : FileSystem) where
  token : Value → Value → Prop
  frame : Text → Text → Prop
  response : VerdictResponse → VerdictResponse → Prop
  target : Upload.Target → Upload.Target → Prop
  content : Upload.Content → Upload.Content → Prop
  put : Upload.Put → Upload.Put → Prop
  line : LogLine → LogLine → Prop
  token_refl : ∀ x, token x x
  frame_refl : ∀ f, frame f f
  response_refl : ∀ v, response v v
  target_refl : ∀ x, target x x
  content_refl : ∀ b, content b b
  put_refl : ∀ p, put p p
  line_refl : ∀ l, line l l
  greeting : ∀ {x y}, token x y → Both frame (Session.greeting x) (Session.greeting y)
  guid : ∀ {u v}, response u v → v.guid = u.guid
  classification : ∀ {u v}, response u v →
    Classification.ofResponse v = Classification.ofResponse u
  demand : ∀ {u v}, response u v → Option.Rel (fun x y ↦ target ⟨x.1, x.2⟩ ⟨y.1, y.2⟩)
    u.uploadTarget? v.uploadTarget?
  start : ∀ {x y b c}, target x y → content b c → ∀ o,
    Both put (Upload.start files x o b) (Upload.start files y o c)
  finish : ∀ {x y b c}, target x y → content b c → ∀ o,
    Both line (Upload.finish x b o) (Upload.finish y c o)

variable {τ : Type} {files : FileSystem} (R : Likeness files)

theorem Likeness.verdict {u v : VerdictResponse} (h : R.response u v) : v.verdict = u.verdict :=
  congrArg Classification.verdict (R.classification h)

theorem Likeness.lines {ls ls' : List LogLine} (h : List.Forall₂ R.line ls ls') (new : List LogLine) :
    List.Forall₂ R.line (ls ++ new) (ls' ++ new) :=
  List.rel_append h (List.forall₂_same.2 fun l _ ↦ R.line_refl l)

inductive Transport.Alike : Transport → Transport → Prop
  | mk {closed closes fs fs'} (h : List.Forall₂ R.frame fs fs') :
      Alike ⟨closed, fs, closes⟩ ⟨closed, fs', closes⟩

inductive Future.Alike : Future VerdictResponse → Future VerdictResponse → Prop
  | pending : Alike .pending .pending
  | done {u v} (h : R.response u v) : Alike (.done u) (.done v)
  | failed {e} : Alike (.failed e) (.failed e)
  | cancelled : Alike .cancelled .cancelled

inductive Ticket.Alike : Ticket τ → Ticket τ → Prop
  | mk {g d f o o'} (h : o.Alike R o') : Alike ⟨g, d, f, o⟩ ⟨g, d, f, o'⟩

inductive Correlator.Alike : Correlator τ → Correlator τ → Prop
  | mk {ts ts' ps c} (h : List.Forall₂ (Ticket.Alike R) ts ts') : Alike ⟨ts, ps, c⟩ ⟨ts', ps, c⟩

inductive Receiver.Alike : Receiver τ → Receiver τ → Prop
  | mk {ws x c c' ls} (h : c.Alike R c') : Alike ⟨ws, x, c, ls⟩ ⟨ws, x, c', ls⟩

inductive Frame.Alike : Frame → Frame → Prop
  | refl (f) : Alike f f
  | verdict {f f' v v'} (hf : Inbound.decode f = .ok (.verdict v))
      (hf' : Inbound.decode f' = .ok (.verdict v')) (hv : R.response v v') : Alike f f'

namespace Session

/-- Questions that are refused for the same reason or lead to the same request, with contents that
are alike. -/
structure Query.Alike (q q' : Query) : Prop where
  refused : q'.refused? = q.refused?
  kind : q'.kind = q.kind
  fields : q'.fields files = q.fields files
  content : Option.Rel (fun x y ↦ R.content x.1 y.1 ∧ y.2 = x.2) q.content? q'.content?

inductive Ask.Alike : Ask τ → Ask τ → Prop
  | mk {q q' g t} (h : q.Alike R q') : Alike ⟨q, g, t⟩ ⟨q', g, t⟩

inductive Job.Alike : Job τ → Job τ → Prop
  | mk {r b b' t} (h : Option.Rel (fun x y ↦ R.content x.1 y.1 ∧ y.2 = x.2) b b') :
      Alike ⟨r, b, t⟩ ⟨r, b', t⟩

inductive Phase.Alike : Phase τ → Phase τ → Prop
  | connect {x x'} (h : R.token x x') : Alike (.connect x) (.connect x')
  | opening {x x'} (h : R.token x x') : Alike (.opening x) (.opening x')
  | install {x x'} (h : R.token x x') : Alike (.install x) (.install x')
  | announce {x x'} (h : R.token x x') : Alike (.announce x) (.announce x')
  | greet {x x' w} (h : R.token x x') : Alike (.greet x w) (.greet x' w)
  | awaitAuth {w k} : Alike (.awaitAuth w k) (.awaitAuth w k)
  | giveUp {w} : Alike (.giveUp w) (.giveUp w)
  | enter {r} : Alike (.enter r) (.enter r)
  | leave {e} : Alike (.leave e) (.leave e)
  | ask {a a'} (h : a.Alike R a') : Alike (.ask a) (.ask a')
  | check {j j'} (h : j.Alike R j') : Alike (.check j) (.check j')
  | register {j j'} (h : j.Alike R j') : Alike (.register j) (.register j')
  | send {j j' k} (h : j.Alike R j') : Alike (.send j k) (.send j' k)
  | await {j j' st k w} (h : j.Alike R j') : Alike (.await j st k w) (.await j' st k w)
  | expire {j j' st k} (h : j.Alike R j') : Alike (.expire j st k) (.expire j' st k)
  | registerFinal {j j' x x' b b' l} (h : j.Alike R j') (hx : R.target x x') (hb : R.content b b') :
      Alike (.registerFinal j x b l) (.registerFinal j' x' b' l)
  | upload {j j' k x x' b b' l} (h : j.Alike R j') (hx : R.target x x') (hb : R.content b b') :
      Alike (.upload j k x b l) (.upload j' k x' b' l)
  | uploading {j j' k x x' b b'} (h : j.Alike R j') (hx : R.target x x') (hb : R.content b b') :
      Alike (.uploading j k x b) (.uploading j' k x' b')
  | restart {j j' k} (h : j.Alike R j') : Alike (.restart j k) (.restart j' k)
  | abandon {g e} : Alike (.abandon g e) (.abandon g e)
  | close : Alike .close .close
  | failAll {b₁ b₂} : Alike (.failAll b₁ b₂) (.failAll b₁ b₂)
  | disconnect {b₁ b₂} : Alike (.disconnect b₁ b₂) (.disconnect b₁ b₂)
  | join {b} : Alike (.join b) (.join b)
  | ended {r} : Alike (.ended r) (.ended r)

inductive Invocation.Alike : Invocation τ → Invocation τ → Prop
  | connect {x x'} (h : R.token x x') : Alike (.connect x) (.connect x')
  | ask {a a'} (h : a.Alike R a') : Alike (.ask a) (.ask a')
  | close : Alike .close .close

inductive Event.Alike : Event τ → Event τ → Prop
  | call {i i'} (h : i.Alike R i') : Alike (.call i) (.call i')
  | move {n sig} : Alike (.move n sig) (.move n sig)
  | frame {f f'} (h : f.Alike R f') : Alike (.frame f) (.frame f')
  | lost {f} : Alike (.lost f) (.lost f)
  | reader : Alike .reader .reader
  | clock {t} : Alike (.clock t) (.clock t)

/-- Sessions that differ only in what counts as the same. -/
inductive Alike : Session τ → Session τ → Prop
  | mk {s : Session τ} {t r cs ps ls} (hf : s.files = files)
      (ht : Option.Rel (Transport.Alike R) s.connection t) (hr : s.receiver.Alike R r)
      (hcs : List.Forall₂ (Phase.Alike R) s.callers cs)
      (hps : List.Forall₂ (fun p q ↦ q.1 = p.1 ∧ R.put p.2 q.2) s.puts ps)
      (hls : List.Forall₂ R.line s.log ls) :
      Alike s { s with connection := t, receiver := r, callers := cs, puts := ps, log := ls }

/-- Where a caller stands after a step, with the session after it, in both runs. -/
structure StepsAlike (x y : Phase τ × Session τ) : Prop where
  phase : x.1.Alike R y.1
  session : x.2.Alike R y.2

end Session

theorem Both.refl {α : Type} {r : α → α → Prop} (hr : ∀ a, r a a) (x : Except Error α) : Both r x x := by
  cases x with
  | error e => exact .error e
  | ok a => exact .ok (hr a)

theorem rel_refl {α : Type} {r : α → α → Prop} (hr : ∀ a, r a a) (x : Option α) : Option.Rel r x x := by
  cases x with
  | none => exact .none
  | some a => exact .some (hr a)

def Likeness.same (files : FileSystem) : Likeness files where
  token x y := y = x
  frame f g := g = f
  response u v := v = u
  target x y := y = x
  content b c := c = b
  put p q := q = p
  line k l := l = k
  token_refl _ := rfl
  frame_refl _ := rfl
  response_refl _ := rfl
  target_refl _ := rfl
  content_refl _ := rfl
  put_refl _ := rfl
  line_refl _ := rfl
  greeting := by
    rintro x _ rfl
    apply Both.refl
    exact fun _ ↦ rfl
  guid h := by rw [h]
  classification h := by rw [h]
  demand := by
    rintro u _ rfl
    apply rel_refl
    exact fun _ ↦ rfl
  start := by
    rintro x _ b _ rfl rfl o
    apply Both.refl
    exact fun _ ↦ rfl
  finish := by
    rintro x _ b _ rfl rfl o
    apply Both.refl
    exact fun _ ↦ rfl

variable {R}

theorem Both.cases {α : Type} {r : α → α → Prop} {x y : Except Error α} (h : Both r x y) :
    (∃ e, x = .error e ∧ y = .error e) ∨ ∃ a b, x = .ok a ∧ y = .ok b ∧ r a b := by
  cases h with
  | error e => exact .inl ⟨e, rfl, rfl⟩
  | ok h => exact .inr ⟨_, _, rfl, rfl, h⟩

theorem rel_cases {α β : Type} {r : α → β → Prop} {x : Option α} {y : Option β}
    (h : Option.Rel r x y) : x = none ∧ y = none ∨ ∃ a b, x = some a ∧ y = some b ∧ r a b := by
  cases h with
  | none => exact .inl ⟨rfl, rfl⟩
  | some h => exact .inr ⟨_, _, rfl, rfl, h⟩

theorem Transport.Alike.write {t t' : Transport} (h : t.Alike R t') {f f' : Text} (hf : R.frame f f')
    (o : Option Failure) :
    (t'.send f' o).1 = (t.send f o).1 ∧ (t.send f o).2.Alike R (t'.send f' o).2 := by
  obtain ⟨h⟩ := h
  simp only [send]
  split
  · exact ⟨rfl, ⟨h⟩⟩
  · cases o with
    | none => exact ⟨rfl, ⟨List.rel_append h (.cons hf .nil)⟩⟩
    | some r =>
      simp only [Transport.write, Transport.fail]
      split <;> exact ⟨rfl, ⟨h⟩⟩

theorem Transport.Alike.close {t t' : Transport} (h : t.Alike R t') : t.close.Alike R t'.close := by
  obtain ⟨h⟩ := h
  simp only [Transport.close]
  split <;> exact ⟨h⟩

theorem Transport.Alike.fail {t t' : Transport} (h : t.Alike R t') (f : Failure) :
    (t'.fail f).1 = (t.fail f).1 ∧ (t.fail f).2.Alike R (t'.fail f).2 := by
  obtain ⟨h⟩ := h
  simp only [Transport.fail]
  split <;> exact ⟨rfl, ⟨h⟩⟩

theorem Future.Alike.settle {o o' a a' : Future VerdictResponse} (ha : a.Alike R a')
    (h : o.Alike R o') : (a.settle o).Alike R (a'.settle o') := by
  cases h with
  | pending => exact ha
  | done h => exact .done h
  | failed => exact .failed
  | cancelled => exact .cancelled

theorem Future.Alike.isPending {o o' : Future VerdictResponse} (h : o.Alike R o') :
    o'.isPending = o.isPending := by
  cases h <;> rfl

theorem Ticket.Alike.settle {t t' : Ticket τ} (h : t.Alike R t') {a a' : Future VerdictResponse}
    (ha : a.Alike R a') : (t.settle a).Alike R (t'.settle a') := by
  obtain ⟨h⟩ := h
  exact ⟨ha.settle h⟩

theorem Ticket.Alike.accepts {t t' : Ticket τ} (h : t.Alike R t') {u v : VerdictResponse}
    (hv : R.response u v) : t'.accepts v = t.accepts u := by
  obtain ⟨h⟩ := h
  simp only [Ticket.accepts, R.verdict hv]

theorem Ticket.Alike.answer {t t' : Ticket τ} (h : t.Alike R t') :
    Option.Rel (Both R.response) (Correlator.answer? t) (Correlator.answer? t') := by
  obtain ⟨h⟩ := h
  cases h with
  | pending => exact .none
  | done h => exact .some (.ok h)
  | failed | cancelled => exact .some (.error _)

theorem Ticket.Alike.lateAnswer {t t' : Ticket τ} (h : t.Alike R t') :
    Both R.response (Correlator.lateAnswer t) (Correlator.lateAnswer t') := by
  obtain ⟨h⟩ := h
  cases h with
  | done h => exact .ok h
  | pending | failed | cancelled => exact .error _

theorem rel_eq {α : Type} {r : α → α → Prop} (hr : ∀ {a b}, r a b → b = a) {x y : Option α}
    (h : Option.Rel r x y) : y = x := by
  cases h with
  | none => rfl
  | some h => rw [hr h]

theorem forall₂_eq {α : Type} {r : α → α → Prop} (hr : ∀ {a b}, r a b → b = a) {xs ys : List α}
    (h : List.Forall₂ r xs ys) : ys = xs := by
  induction h with
  | nil => rfl
  | cons ha _ ih => rw [hr ha, ih]

theorem forall₂_modify {α : Type} {r : α → α → Prop} {xs ys : List α} (h : List.Forall₂ r xs ys)
    {f g : α → α} (hfg : ∀ {a b}, r a b → r (f a) (g b)) (n : Nat) :
    List.Forall₂ r (xs.modify n f) (ys.modify n g) := by
  induction h generalizing n with
  | nil => simp only [List.modify_nil, List.Forall₂.nil]
  | cons ha h ih =>
    cases n with
    | zero => exact .cons (hfg ha) h
    | succ n => exact .cons ha (ih n)

theorem forall₂_getElem? {α : Type} {r : α → α → Prop} {xs ys : List α} (h : List.Forall₂ r xs ys)
    (n : Nat) : Option.Rel r xs[n]? ys[n]? := by
  induction h generalizing n with
  | nil => exact .none
  | cons ha h ih =>
    cases n with
    | zero => exact .some ha
    | succ n => exact ih n

theorem forall₂_set {α : Type} {r : α → α → Prop} {xs ys : List α} (h : List.Forall₂ r xs ys)
    {a b : α} (hab : r a b) (n : Nat) : List.Forall₂ r (xs.set n a) (ys.set n b) := by
  rw [List.set_eq_modify, List.set_eq_modify]
  exact forall₂_modify h (fun _ ↦ hab) n

namespace Correlator.Alike

variable {c c' : Correlator τ}

theorem tickets (h : c.Alike R c') : List.Forall₂ (Ticket.Alike R) c.tickets c'.tickets := by
  obtain ⟨h⟩ := h
  exact h

theorem ticket? (h : c.Alike R c') (k : Nat) :
    Option.Rel (Ticket.Alike R) (c.ticket? k) (c'.ticket? k) := by
  obtain ⟨h⟩ := h
  exact forall₂_getElem? h k

theorem find? (h : c.Alike R c') (g : Text) : c'.find? g = c.find? g := by
  obtain ⟨h⟩ := h
  rfl

theorem settle (h : c.Alike R c') (k : Nat) {a a' : Future VerdictResponse} (ha : a.Alike R a') :
    (c.settle k a).Alike R (c'.settle k a') := by
  obtain ⟨h⟩ := h
  exact ⟨forall₂_modify h (fun ht ↦ ht.settle ha) k⟩

theorem drop (h : c.Alike R c') (g : Text) : (c.drop g).Alike R (c'.drop g) := by
  obtain ⟨h⟩ := h
  exact ⟨h⟩

theorem forget (h : c.Alike R c') (k : Nat) : (c.forget k).Alike R (c'.forget k) := by
  obtain ⟨h⟩ := h
  exact ⟨h⟩

theorem restart (h : c.Alike R c') (k : Nat) (d : τ) : (c.restart k d).Alike R (c'.restart k d) := by
  obtain ⟨h⟩ := h
  refine ⟨forall₂_modify h (fun ht ↦ ?_) k⟩
  obtain ⟨ht⟩ := ht
  exact ⟨ht⟩

theorem discard (h : c.Alike R c') (g : Text) : (c.discard g).Alike R (c'.discard g) := by
  simp only [Correlator.discard, h.find?]
  cases c.find? g with
  | none => exact h
  | some k => exact (h.drop g).settle k .cancelled

theorem addressee? (h : c.Alike R c') (g : Text) {u v : VerdictResponse} (hv : R.response u v) :
    c'.addressee? g v = c.addressee? g u := by
  simp only [Correlator.addressee?, h.find?]
  congr 1
  funext k
  obtain ⟨ht, ht'⟩ | ⟨t, t', ht, ht', h⟩ := rel_cases (h.ticket? k)
  · rw [ht, ht']
    rfl
  · rw [ht, ht']
    exact h.accepts hv

theorem resolve (h : c.Alike R c') (g : Text) {u v : VerdictResponse} (hv : R.response u v) :
    (c'.resolve g v).1 = (c.resolve g u).1 ∧ (c.resolve g u).2.Alike R (c'.resolve g v).2 := by
  simp only [Correlator.resolve, h.addressee? g hv]
  cases c.addressee? g u with
  | none => exact ⟨rfl, h⟩
  | some k => exact ⟨rfl, (h.drop g).settle k (.done hv)⟩

theorem failAll (h : c.Alike R c') (cause : ClosedCause) :
    (c.failAll cause).Alike R (c'.failAll cause) := by
  have hfold (ps : List (Text × Nat)) {x y : Correlator τ} (hxy : x.Alike R y) :
      (ps.foldl (fun c p ↦ c.settle p.2 (.failed (.closed cause))) x).Alike R
        (ps.foldl (fun c p ↦ c.settle p.2 (.failed (.closed cause))) y) := by
    induction ps generalizing x y with
    | nil => exact hxy
    | cons p ps ih => exact ih (hxy.settle p.2 .failed)
  have hts := hfold c.pending h
  have hp : c'.pending = c.pending ∧ c'.closed = c.closed := by
    obtain ⟨h⟩ := h
    exact ⟨rfl, rfl⟩
  simp only [Correlator.failAll, hp.1, hp.2]
  generalize List.foldl _ c c.pending = x at hts
  generalize List.foldl _ c' c.pending = y at hts
  obtain ⟨hts⟩ := hts
  exact ⟨hts⟩

theorem failAllLog (h : c.Alike R c') (cause : ClosedCause) :
    c'.failAllLog cause = c.failAllLog cause := by
  obtain ⟨h⟩ := h
  rfl

theorem register [Clock τ] (h : c.Alike R c') (now : τ) (g : Text) (t : Timeout τ) (f : Bool) :
    Both (fun x y ↦ y.1 = x.1 ∧ x.2.Alike R y.2) (c.register now g t f) (c'.register now g t f) := by
  have hg : c'.contains g = c.contains g := congrArg Option.isSome (h.find? g)
  have hl : c'.tickets.length = c.tickets.length := by
    obtain ⟨h⟩ := h
    exact h.length_eq.symm
  have hp : c'.pending = c.pending ∧ c'.closed = c.closed := by
    obtain ⟨h⟩ := h
    exact ⟨rfl, rfl⟩
  simp only [Correlator.register, hg, hl, hp.1, hp.2]
  split
  · exact .error _
  split
  · exact .error _
  cases deadline now t with
  | error e => exact .error e
  | ok d =>
    obtain ⟨h⟩ := h
    exact .ok ⟨rfl, ⟨List.rel_append h (.cons ⟨.pending⟩ .nil)⟩⟩

end Correlator.Alike

namespace Receiver.Alike

variable {r r' : Receiver τ}

theorem correlator (h : r.Alike R r') : r.correlator.Alike R r'.correlator := by
  obtain ⟨h⟩ := h
  exact h

theorem waiters (h : r.Alike R r') : r'.waiters = r.waiters := by
  obtain ⟨h⟩ := h
  rfl

theorem log (h : r.Alike R r') : r'.log = r.log := by
  obtain ⟨h⟩ := h
  rfl

theorem eq_with (h : r.Alike R r') : r' =
    { r with correlator := { r.correlator with tickets := r'.correlator.tickets } } := by
  obtain ⟨⟨-⟩⟩ := h
  rfl

theorem flushed (h : r.Alike R r') : Receiver.Alike R { r with log := [] } { r' with log := [] } := by
  obtain ⟨h⟩ := h
  exact ⟨h⟩

theorem withCorrelator (h : r.Alike R r') {c c' : Correlator τ} (hc : c.Alike R c') :
    Receiver.Alike R { r with correlator := c } { r' with correlator := c' } := by
  obtain ⟨-⟩ := h
  exact ⟨hc⟩

theorem expectAuth (h : r.Alike R r') :
    r'.expectAuth.1 = r.expectAuth.1 ∧ r.expectAuth.2.Alike R r'.expectAuth.2 := by
  obtain ⟨h⟩ := h
  exact ⟨rfl, ⟨h⟩⟩

theorem settleWaiter (h : r.Alike R r') (o : Future AuthResponse) :
    (r.settleWaiter o).Alike R (r'.settleWaiter o) := by
  cases h with
  | @mk ws x c c' ls h => cases x <;> exact ⟨h⟩

theorem noteEnd (h : r.Alike R r') (e : Error) : (r.noteEnd e).Alike R (r'.noteEnd e) := by
  obtain ⟨h⟩ := h
  cases e <;> exact ⟨h⟩

theorem failRequests (h : r.Alike R r') (cause : ClosedCause) :
    (r.failRequests cause).Alike R (r'.failRequests cause) := by
  obtain ⟨h⟩ := h
  simp only [Receiver.failRequests, h.failAllLog]
  exact ⟨h.failAll cause⟩

theorem deliver (h : r.Alike R r') {u v : VerdictResponse} (hv : R.response u v) :
    (r.deliver u).Alike R (r'.deliver v) := by
  obtain ⟨h⟩ := h
  obtain ⟨hb, hc⟩ := h.resolve u.guid hv
  simp only [Receiver.deliver, R.guid hv, R.verdict hv, hb]
  exact ⟨hc⟩

theorem takeAnswer (h : r.Alike R r') {f f' : Frame} (hf : f.Alike R f') :
    (r'.takeAnswer f').1 = (r.takeAnswer f).1 ∧ (r.takeAnswer f).2.Alike R (r'.takeAnswer f').2 := by
  -- To someone who waits for the handshake every response is a message of the wrong kind.
  have ho : handshakeOutcome f' = handshakeOutcome f := by
    cases hf with
    | refl => rfl
    | verdict hf hf' => simp only [handshakeOutcome, decode_of_verdict hf, decode_of_verdict hf']
  simp only [Receiver.takeAnswer, ho]
  cases handshakeOutcome f with
  | ok o => exact ⟨rfl, h.settleWaiter o⟩
  | error c =>
    obtain ⟨h⟩ := h
    exact ⟨rfl, ⟨h⟩⟩

theorem logged (h : r.Alike R r') (level : Level) (text : Text) :
    (r.logged level text).Alike R (r'.logged level text) := by
  obtain ⟨h⟩ := h
  exact ⟨h⟩

theorem route (h : r.Alike R r') {f f' : Frame} (hf : f.Alike R f') :
    (r.route f).Alike R (r'.route f') := by
  unfold Receiver.route
  cases hf with
  | verdict hf hf' hv =>
    rw [hf, hf']
    exact h.deliver hv
  | refl =>
    rcases Inbound.decode f with e | (a | v)
    · exact h.logged _ _
    · exact h.logged _ _
    · exact h.deliver (R.response_refl v)

theorem dispatch (h : r.Alike R r') {f f' : Frame} (hf : f.Alike R f') :
    (r'.dispatch f').1 = (r.dispatch f).1 ∧ (r.dispatch f).2.Alike R (r'.dispatch f').2 := by
  have hx : r'.expecting = r.expecting := by
    obtain ⟨h⟩ := h
    rfl
  simp only [Receiver.dispatch, hx]
  cases r.expecting with
  | some n => exact h.takeAnswer hf
  | none => exact ⟨rfl, h.route hf⟩

end Receiver.Alike

theorem forall₂_refl_of {α : Type} {r : α → α → Prop} (hr : ∀ a, r a a) (xs : List α) :
    List.Forall₂ r xs xs :=
  List.forall₂_same.2 fun a _ ↦ hr a

theorem Transport.Alike.refl (t : Transport) : t.Alike R t := ⟨forall₂_refl_of R.frame_refl _⟩

theorem Future.Alike.refl (o : Future VerdictResponse) : o.Alike R o := by
  cases o with
  | pending => exact .pending
  | done v => exact .done (R.response_refl v)
  | failed e => exact .failed
  | cancelled => exact .cancelled

theorem Receiver.Alike.refl (r : Receiver τ) : r.Alike R r :=
  ⟨⟨forall₂_refl_of (fun _ ↦ ⟨.refl _⟩) _⟩⟩

namespace Session

theorem Query.Alike.refl (q : Query) : q.Alike R q :=
  ⟨rfl, rfl, rfl, rel_refl (fun x ↦ ⟨R.content_refl x.1, rfl⟩) _⟩

theorem Job.Alike.refl (j : Job τ) : j.Alike R j := ⟨rel_refl (fun x ↦ ⟨R.content_refl x.1, rfl⟩) _⟩

theorem Phase.Alike.refl (p : Phase τ) : p.Alike R p := by
  cases p with
  | connect x => exact .connect (R.token_refl x)
  | opening x => exact .opening (R.token_refl x)
  | install x => exact .install (R.token_refl x)
  | announce x => exact .announce (R.token_refl x)
  | greet x w => exact .greet (R.token_refl x)
  | ask a => exact .ask ⟨.refl _⟩
  | check j => exact .check (.refl j)
  | register j => exact .register (.refl j)
  | send j k => exact .send (.refl j)
  | await j st k w => exact .await (.refl j)
  | expire j st k => exact .expire (.refl j)
  | registerFinal j x b l => exact .registerFinal (.refl j) (R.target_refl x) (R.content_refl b)
  | upload j k x b l => exact .upload (.refl j) (R.target_refl x) (R.content_refl b)
  | uploading j k x b => exact .uploading (.refl j) (R.target_refl x) (R.content_refl b)
  | restart j k => exact .restart (.refl j)
  | _ => constructor

theorem Invocation.Alike.refl (i : Invocation τ) : i.Alike R i := by
  cases i with
  | connect x => exact .connect (R.token_refl x)
  | ask a => exact .ask ⟨.refl _⟩
  | close => exact .close

theorem Event.Alike.refl (e : Event τ) : e.Alike R e := by
  cases e with
  | call i => exact .call (.refl i)
  | frame f => exact .frame (.refl f)
  | _ => constructor

theorem Alike.refl {s : Session τ} (hs : s.files = files) : s.Alike R s :=
  ⟨hs, rel_refl Transport.Alike.refl _, .refl _, forall₂_refl_of Phase.Alike.refl _,
    forall₂_refl_of (fun p ↦ ⟨rfl, R.put_refl p.2⟩) _, forall₂_refl_of R.line_refl _⟩

end Session

theorem Transport.Alike.eq (hR : ∀ {f f'}, R.frame f f' → f' = f) {t t' : Transport}
    (h : t.Alike R t') : t' = t := by
  obtain ⟨h⟩ := h
  rw [forall₂_eq hR h]

theorem Future.Alike.eq (hR : ∀ {u v}, R.response u v → v = u) {o o' : Future VerdictResponse}
    (h : o.Alike R o') : o' = o := by
  cases h with
  | done h => rw [hR h]
  | pending | failed | cancelled => rfl

theorem Ticket.Alike.eq (hR : ∀ {u v}, R.response u v → v = u) {t t' : Ticket τ}
    (h : t.Alike R t') : t' = t := by
  obtain ⟨h⟩ := h
  rw [h.eq hR]

theorem Receiver.Alike.eq (hR : ∀ {u v}, R.response u v → v = u) {r r' : Receiver τ}
    (h : r.Alike R r') : r' = r := by
  obtain ⟨⟨h⟩⟩ := h
  rw [forall₂_eq (fun h ↦ Ticket.Alike.eq hR h) h]

end VerdictClient
