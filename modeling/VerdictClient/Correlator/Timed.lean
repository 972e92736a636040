import VerdictClient.Correlator

namespace VerdictClient.Correlator

structure Timed (τ : Type) where
  now : τ
  correlator : Correlator τ
  log : List LogLine

inductive Event (τ : Type) where
  | register (guid : Text) (timeout : Timeout τ) (finalOnly : Bool)
  | resolve (guid : Text) (r : VerdictResponse)
  | discard (guid : Text)
  | failAll (cause : ClosedCause)
  | restart (ticket : Nat) (timeout : Timeout τ)
  | advance (span : τ)
  | wait (ticket : Nat)

inductive Reply (τ : Type) where
  | nothing
  | ticket (n : Nat)
  | truth (b : Bool)
  | moment (t : τ)
  | response (r : VerdictResponse)
  | noTicket

namespace Timed

variable {τ : Type} [Clock τ]

def start : Timed τ := ⟨Clock.zero, .empty, []⟩

def remaining? (n : Nat) (s : Timed τ) : Option τ :=
  (s.correlator.ticket? n).map fun t ↦ Clock.left s.now t.deadline

def strike (deadline : τ) (s : Timed τ) : Timed τ := { s with now := Clock.wake s.now deadline }

def timeOut (n : Nat) (s : Timed τ) : Except Error (Reply τ) × Timed τ :=
  let s := { s with correlator := s.correlator.forget n }
  match s.correlator.ticket? n with
  | none => (.ok .noTicket, s)
  | some t => ((lateAnswer t).map .response, s)

/-- Waits for a ticket. `meanwhile` is what happens between the moment at which its time runs out
and the moment at which the wait notices. -/
def wait (n : Nat) (meanwhile : Timed τ → Timed τ) (s : Timed τ) : Except Error (Reply τ) × Timed τ :=
  match s.correlator.ticket? n with
  | none => (.ok .noTicket, s)
  | some t =>
    match answer? t with
    | some a => (a.map .response, s)
    | none =>
      if outlasts s.now t then (.error (.timeoutRange false), s)
      else timeOut n (meanwhile (s.strike t.deadline))

def perform (e : Event τ) (s : Timed τ) : Except Error (Reply τ) × Timed τ :=
  match e with
  | .register guid timeout finalOnly =>
    match s.correlator.register s.now guid timeout finalOnly with
    | .ok (n, c) => (.ok (.ticket n), { s with correlator := c })
    | .error e => (.error e, s)
  | .resolve guid r =>
    let (b, c) := s.correlator.resolve guid r
    (.ok (.truth b), { s with correlator := c })
  | .discard guid => (.ok .nothing, { s with correlator := s.correlator.discard guid })
  | .failAll cause =>
    (.ok .nothing, { s with
      correlator := s.correlator.failAll cause
      log := s.log ++ s.correlator.failAllLog cause })
  | .restart n timeout =>
    match deadline s.now timeout with
    | .ok d => (.ok (.moment d), { s with correlator := s.correlator.restart n d })
    | .error e => (.error e, s)
  | .advance span =>
    let now := Clock.add s.now span
    (.ok (.moment now), { s with now := now })
  | .wait n => s.wait n id

def run (es : List (Event τ)) (s : Timed τ) : Timed τ := es.foldl (fun s e ↦ (s.perform e).2) s

end Timed

end VerdictClient.Correlator
