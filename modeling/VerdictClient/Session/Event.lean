import VerdictClient.Session.Ask
import VerdictClient.Session.Close
import VerdictClient.Session.Connect

namespace VerdictClient.Session

inductive Signal where
  | go
  | opened (outcome : Option Failure)
  | written (outcome : Option Failure)
  | answered (outcome : Http.Outcome)
  /-- The moment until which it waited has come. -/
  | struck

inductive Invocation (τ : Type) where
  | connect (token : Value)
  | ask (a : Ask τ)
  | close

inductive Event (τ : Type) where
  | call (i : Invocation τ)
  | move (caller : Nat) (signal : Signal)
  | frame (f : Frame)
  | lost (f : Failure)
  | reader
  | clock (moment : τ)

variable {τ : Type} [Clock τ]

def Invocation.phase : Invocation τ → Phase τ
  | connect token => .connect token
  | ask a => .ask a
  | close => .close

/-- The next step of a caller, if the signal is one that it can go on with. -/
def moved (caller : Nat) (p : Phase τ) (signal : Signal) (s : Session τ) : Phase τ × Session τ :=
  match p, signal with
  | .connect token, .go => s.connectStep token
  | .opening token, .opened outcome => s.openingStep token outcome
  | .install token, .go => s.installStep token
  | .announce token, .go => s.announceStep token
  | .greet token waiter, .written outcome => s.greetStep token waiter outcome
  | .awaitAuth waiter _, .go => (s.authSettled (s.receiver.waiters.getD waiter .pending)).getD (p, s)
  -- What has come by then counts, even if the caller has not noticed it.
  | .awaitAuth waiter (some wake), .struck =>
    if Clock.lt s.now wake || !(s.receiver.waiters.getD waiter .pending).isPending then (p, s)
    else (.giveUp waiter, s)
  | .giveUp _, .go => s.giveUpStep
  | .enter r, .go => s.enterStep r
  | .leave e, .go => s.leaveStep e
  | .ask a, .go => s.askStep a
  | .check j, .go => s.checkStep j
  | .register j, .go => s.registerStep j
  | .send j ticket, .written outcome => s.sendStep j ticket outcome
  | .await j stage ticket _, .go => ((s.awaitSettled j stage ticket).getD p, s)
  | .await j stage ticket wake, .struck =>
    if Clock.lt s.now wake || (s.correlator.ticket? ticket).any (!·.outcome.isPending) then (p, s)
    else (.expire j stage ticket, s)
  | .expire j stage ticket, .go => s.expireStep j stage ticket
  | .registerFinal j target content length, .go => s.registerFinalStep j target content length
  | .upload j ticket target content length, .go => s.uploadStep caller j ticket target content length
  | .uploading j ticket target content, .answered outcome =>
    s.uploadingStep j ticket target content outcome
  | .restart j ticket, .go => s.restartStep j ticket
  | .abandon guid e, .go => s.abandonStep guid e
  | .close, .go => s.closeStep
  | .failAll wasClosed hasTransport, .go => s.failAllStep wasClosed hasTransport
  | .disconnect wasClosed hasTransport, .go => s.disconnectStep wasClosed hasTransport
  | .join wasClosed, .go => s.joinStep wasClosed
  | p, _ => (p, s)

def move (caller : Nat) (signal : Signal) (s : Session τ) : Session τ :=
  match s.callers[caller]? with
  | none => s
  | some p =>
    let (p, s) := s.moved caller p signal
    { s with callers := s.callers.set caller p }

def step (s : Session τ) : Event τ → Session τ
  | .call i => { s with callers := s.callers ++ [i.phase] }
  | .move caller signal => s.move caller signal
  | .frame f => s.frameStep f
  | .lost f => s.lostStep f
  | .reader => s.readerStep
  | .clock moment => if Clock.lt s.now moment then { s with now := moment } else s

def run (es : List (Event τ)) (s : Session τ) : Session τ := es.foldl step s

end VerdictClient.Session
