import VerdictClient.Receiver

namespace VerdictClient.Receiver

structure Loop (τ : Type) where
  receiver : Receiver τ
  ended : Bool
  reports : List ClosedCause

inductive Event (τ : Type) where
  | frame (f : Frame)
  | failure (f : Failure)
  | expectAuth
  | cancelAuth
  | register (guid : Text) (timeout : Timeout τ) (finalOnly : Bool)
  | discard (guid : Text)

inductive Handed where
  | nothing
  | ticket (n : Nat)
  | waiter (n : Nat)
  deriving DecidableEq

namespace Loop

variable {τ : Type} [Clock τ]

def start : Loop τ := ⟨.empty, false, []⟩

def withCorrelator (c : Correlator τ) (l : Loop τ) : Loop τ :=
  { l with receiver := { l.receiver with correlator := c } }

/-- Ends the loop: everyone who waits is told, and the owner of the loop after them. -/
def finish (e : Error) (r : Receiver τ) (l : Loop τ) : Loop τ :=
  let cause := closingCause e
  ⟨(r.noteEnd e).shutDown cause, true, l.reports ++ [cause]⟩

def read (f : Frame) (l : Loop τ) : Loop τ :=
  match l.receiver.dispatch f with
  | (.ok _, r) => { l with receiver := r }
  | (.error c, r) => l.finish (.tooDeep c) r

def perform (now : τ) (e : Event τ) (l : Loop τ) : Except Error Handed × Loop τ :=
  match e with
  | .frame f => (.ok .nothing, l.read f)
  | .failure f => (.ok .nothing, l.finish (.ofFailure f) l.receiver)
  | .expectAuth =>
    let (n, r) := l.receiver.expectAuth
    (.ok (.waiter n), { l with receiver := r })
  | .cancelAuth => (.ok .nothing, { l with receiver := l.receiver.cancelAuth })
  | .register guid timeout finalOnly =>
    match l.receiver.correlator.register now guid timeout finalOnly with
    | .ok (n, c) => (.ok (.ticket n), l.withCorrelator c)
    | .error e => (.error e, l)
  | .discard guid => (.ok .nothing, l.withCorrelator (l.receiver.correlator.discard guid))

def step (now : τ) (l : Loop τ) (e : Event τ) : Loop τ :=
  if l.ended then l else (l.perform now e).2

def run (now : τ) (es : List (Event τ)) (l : Loop τ) : Loop τ := es.foldl (step now) l

end Loop

end VerdictClient.Receiver
