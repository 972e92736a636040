import VerdictClient.Clock
import VerdictClient.Error
import VerdictClient.Log

namespace VerdictClient

inductive Future (α : Type) where
  | pending
  | done (a : α)
  | failed (e : Error)
  | cancelled
  deriving DecidableEq

namespace Future

variable {α : Type}

def isPending : Future α → Bool
  | pending => true
  | _ => false

/-- The first settlement stands. -/
def settle (outcome : Future α) : Future α → Future α
  | pending => outcome
  | settled => settled

end Future

structure Ticket (τ : Type) where
  guid : Text
  deadline : τ
  /-- Whether an unknown verdict leaves the request waiting. -/
  finalOnly : Bool
  outcome : Future VerdictResponse
  deriving DecidableEq

namespace Ticket

variable {τ : Type}

def accepts (t : Ticket τ) (r : VerdictResponse) : Bool := !(t.finalOnly && r.verdict == .unknown)

def settle (outcome : Future VerdictResponse) (t : Ticket τ) : Ticket τ :=
  { t with outcome := Future.settle outcome t.outcome }

end Ticket

structure Correlator (τ : Type) where
  tickets : List (Ticket τ)
  /-- The guids that are waited for, with the numbers of their tickets, in order of registration. -/
  pending : List (Text × Nat)
  closed : Option ClosedCause
  deriving DecidableEq

namespace Correlator

variable {τ : Type}

def empty : Correlator τ := ⟨[], [], none⟩

def find? (guid : Text) (c : Correlator τ) : Option Nat := c.pending.lookup guid

def contains (guid : Text) (c : Correlator τ) : Bool := (c.find? guid).isSome

def size (c : Correlator τ) : Nat := c.pending.length

def ticket? (n : Nat) (c : Correlator τ) : Option (Ticket τ) := c.tickets[n]?

def drop (guid : Text) (c : Correlator τ) : Correlator τ :=
  { c with pending := c.pending.filter (·.1 ≠ guid) }

def settle (n : Nat) (outcome : Future VerdictResponse) (c : Correlator τ) : Correlator τ :=
  { c with tickets := c.tickets.modify n (Ticket.settle outcome) }

def deadline [Clock τ] (now : τ) : Timeout τ → Except Error τ
  | .after span | .whole span => .ok (Clock.add now span)
  | .oversized _ => .error .timeoutSize
  | .never => .error (.timeoutType Value.null.typeName)
  | .unusable name => .error (.timeoutType name)

def register [Clock τ] (now : τ) (guid : Text) (timeout : Timeout τ) (finalOnly : Bool)
    (c : Correlator τ) : Except Error (Nat × Correlator τ) :=
  match c.closed with
  | some cause => .error (.closed cause)
  | none =>
    if c.contains guid then .error (.state (.alreadyPending guid))
    else
      match deadline now timeout with
      | .error e => .error e
      | .ok d => .ok (c.tickets.length,
          { c with tickets := c.tickets ++ [⟨guid, d, finalOnly, .pending⟩]
                   pending := c.pending ++ [(guid, c.tickets.length)] })

def addressee? (guid : Text) (r : VerdictResponse) (c : Correlator τ) : Option Nat :=
  (c.find? guid).filter fun n ↦ (c.ticket? n).any (·.accepts r)

def resolve (guid : Text) (r : VerdictResponse) (c : Correlator τ) : Bool × Correlator τ :=
  match c.addressee? guid r with
  | some n => (true, (c.drop guid).settle n (.done r))
  | none => (false, c)

def discard (guid : Text) (c : Correlator τ) : Correlator τ :=
  match c.find? guid with
  | some n => (c.drop guid).settle n .cancelled
  | none => c

def failAll (cause : ClosedCause) (c : Correlator τ) : Correlator τ :=
  { tickets := (c.pending.foldl (fun c p ↦ c.settle p.2 (.failed (.closed cause))) c).tickets
    pending := []
    closed := c.closed.or (some cause) }

def failAllLog (cause : ClosedCause) (c : Correlator τ) : List LogLine :=
  if c.pending.isEmpty then []
  else [⟨.debug, .correlator, "Failed " ++ Text.ofNat c.size ++ " pending request(s): " ++ cause.message⟩]

def restart (n : Nat) (deadline : τ) (c : Correlator τ) : Correlator τ :=
  { c with tickets := c.tickets.modify n fun t ↦ { t with deadline := deadline } }

/-- Takes a ticket off the map, unless its guid is waited for by another one. -/
def forget (n : Nat) (c : Correlator τ) : Correlator τ :=
  { c with pending := c.pending.filter (·.2 ≠ n) }

/-- What someone gets who asks for a settled ticket. -/
def answer? (t : Ticket τ) : Option (Except Error VerdictResponse) :=
  match t.outcome with
  | .pending => none
  | .done r => some (.ok r)
  | .failed e => some (.error e)
  | .cancelled => some (.error (.closed (.discarded t.guid)))

/-- Whether nobody can be made to wait until the deadline of a ticket. -/
def outlasts [Clock τ] (now : τ) (t : Ticket τ) : Bool := Clock.outlasts (Clock.left now t.deadline)

/-- What someone gets whose time is up: the answer if one came just before the request was
forgotten. -/
def lateAnswer (t : Ticket τ) : Except Error VerdictResponse :=
  match t.outcome with
  | .done r => .ok r
  | .failed e => .error e
  | .pending | .cancelled => .error (.timedOut (.noResponse t.guid))

end Correlator

end VerdictClient
