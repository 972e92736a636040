import VerdictClient.Correlator

namespace VerdictClient

structure Receiver (τ : Type) where
  waiters : List (Future AuthResponse)
  expecting : Option Nat
  correlator : Correlator τ
  log : List LogLine

namespace Receiver

variable {τ : Type}

def empty : Receiver τ := ⟨[], none, .empty, []⟩

def logged (level : Level) (text : Text) (r : Receiver τ) : Receiver τ :=
  { r with log := r.log ++ [⟨level, .receiver, text⟩] }

def expectAuth (r : Receiver τ) : Nat × Receiver τ :=
  (r.waiters.length,
    { r with waiters := r.waiters ++ [.pending], expecting := some r.waiters.length })

def settleWaiter (outcome : Future AuthResponse) (r : Receiver τ) : Receiver τ :=
  match r.expecting with
  | none => r
  | some n => { r with waiters := r.waiters.modify n (Future.settle outcome), expecting := none }

def cancelAuth (r : Receiver τ) : Receiver τ := r.settleWaiter .cancelled

/-- What a frame means to someone who waits for the answer to the handshake; containers that nest
too deep mean nothing to anyone. -/
def handshakeOutcome (f : Frame) : Except Json.Container (Future AuthResponse) :=
  match AuthResponse.decode f with
  | .ok a => .ok (.done a)
  | .error (.undecodable c) => .ok (.failed (.authentication (.undecodable c)))
  | .error (.tooDeep c) => .error c

/-- Takes a frame for the answer to the handshake. The waiter expects nothing more even if the
frame brings reading to its end. -/
def takeAnswer (f : Frame) (r : Receiver τ) : Except Json.Container Unit × Receiver τ :=
  match handshakeOutcome f with
  | .ok outcome => (.ok (), r.settleWaiter outcome)
  | .error c => (.error c, { r with expecting := none })

def deliver (v : VerdictResponse) (r : Receiver τ) : Receiver τ :=
  let (resolved, c) := r.correlator.resolve v.guid v
  { r with correlator := c }.logged .debug <|
    if resolved then "Resolved " ++ v.guid ++ ": " ++ v.verdict.name
    else "Response for " ++ v.guid ++ " not awaited, dropped"

def route (f : Frame) (r : Receiver τ) : Receiver τ :=
  match Inbound.decode f with
  | .ok (.verdict v) => r.deliver v
  | .ok (.auth _) => r.logged .debug ("Ignoring unexpected " ++ authResponseKind ++ " frame")
  | .error e => r.logged .warning ("Dropping undecodable frame: " ++ e.message)

def dispatch (f : Frame) (r : Receiver τ) : Except Json.Container Unit × Receiver τ :=
  match r.expecting with
  | some _ => r.takeAnswer f
  | none => (.ok (), r.route f)

/-- Why reading ends when it fails like this, and whether the receiver gave out rather than the
connection. -/
def closingCause : Error → ClosedCause
  | .closed c => c
  | e => .loopFailed e.message

def noteEnd (e : Error) (r : Receiver τ) : Receiver τ :=
  match e with
  | .closed _ => r
  | _ => r.logged .error "Receive loop crashed"

def failWaiter (cause : ClosedCause) (r : Receiver τ) : Receiver τ :=
  r.settleWaiter (.failed (.closed cause))

def failRequests (cause : ClosedCause) (r : Receiver τ) : Receiver τ :=
  { r with correlator := r.correlator.failAll cause
           log := r.log ++ r.correlator.failAllLog cause }

def shutDown (cause : ClosedCause) (r : Receiver τ) : Receiver τ :=
  (r.failWaiter cause).failRequests cause

end Receiver

end VerdictClient
