import VerdictClient.Session.Event

namespace VerdictClient.Session

variable {τ : Type} [Clock τ]

structure Scene (τ : Type) where
  session : Session τ
  openings : List (Nat × Option Failure)
  fault : Option Failure
  broken : Option Failure
  holding : Bool
  held : List Nat
  waiting : List Nat

def isSettled (s : Session τ) : Phase τ → Bool
  | .awaitAuth waiter _ => !(s.receiver.waiters.getD waiter .pending).isPending
  | .await _ _ ticket _ => (s.correlator.ticket? ticket).any fun t ↦ !t.outcome.isPending
  | _ => false

def balks (s : Session τ) : Phase τ → Bool
  | .awaitAuth _ _ => !s.patience.isOk
  | .await _ _ ticket _ => (s.correlator.ticket? ticket).any (Correlator.outlasts s.now)
  | _ => false

def Phase.wake? : Phase τ → Option τ
  | .awaitAuth _ wake => wake
  | .await _ _ _ wake => some wake
  | _ => none

def Phase.isWait : Phase τ → Bool
  | .awaitAuth _ _ | .await _ _ _ _ => true
  | _ => false

/-- The place of what a caller waits for among all that is settled together: in order of
registration, the handshake before all requests. -/
def Phase.rank : Phase τ → Nat
  | .await _ _ ticket _ => ticket + 1
  | _ => 0

def Phase.frame? : Phase τ → Option Text
  | .greet token _ => (greeting token).toOption
  | .send j _ => (Outbound.verdict j.request).encode.toOption
  | _ => none

namespace Scene

def start (s : Session τ) : Scene τ := ⟨s, [], none, none, false, [], []⟩

def phase? (n : Nat) (x : Scene τ) : Option (Phase τ) := x.session.callers[n]?

def isPending (n : Nat) (x : Scene τ) : Bool :=
  (x.phase? n).any fun p ↦ p.isWait && !x.session.isSettled p

/-- Whether a caller that has not begun to wait finds its time over already. -/
def isLate (p : Phase τ) (x : Scene τ) : Bool :=
  p.wake?.any fun wake ↦ !Clock.lt x.session.now wake

def signal? (n : Nat) (p : Phase τ) (x : Scene τ) : Option Signal :=
  match p with
  | .ended _ | .uploading _ _ _ _ => none
  | .opening _ => (x.openings.lookup n).map .opened
  | .greet _ _ | .send _ _ => some (.written x.fault)
  | p =>
    if !p.isWait then some .go
    else if x.held.contains n then none
    else if x.session.isSettled p || x.session.balks p then some .go
    else if x.isLate p && !x.waiting.contains n then some .struck
    else none

/-- The next event that needs nothing from outside. -/
def event? (x : Scene τ) : Option (Event τ) :=
  match x.session.reader, x.broken with
  | .failWaiter _, _ | .failRequests _, _ | .report _, _ => some .reader
  | .reading, some f => some (.lost f)
  | _, _ => (List.range x.session.callers.length).findSome? fun n ↦
      (x.phase? n).bind fun p ↦ (x.signal? n p).map (.move n)

def writes (e : Event τ) (x : Scene τ) : Bool :=
  match e with
  | .move n (.written _) =>
    ((x.phase? n).bind Phase.frame?).isSome && x.session.connection.any (!·.closed)
  | _ => false

def noted (x : Scene τ) : Scene τ :=
  let rank (n : Nat) : Nat := ((x.phase? n).map Phase.rank).getD 0
  let settled := (x.waiting.filter fun n ↦
    (x.phase? n).any x.session.isSettled && !x.held.contains n).mergeSort fun m n ↦ rank m ≤ rank n
  let fresh := (List.range x.session.callers.length).filter fun n ↦
    x.isPending n && !x.waiting.contains n && !(x.phase? n).any x.isLate
  { x with
    held := if x.holding then x.held ++ settled else x.held
    waiting := x.waiting.filter (fun n ↦ (x.phase? n).any Phase.isWait) ++ fresh
    broken := x.broken.or <|
      if x.session.connection.any (0 < ·.closes) then some .closedLocally else none }

def after (e : Event τ) (x : Scene τ) : Scene τ :=
  noted { x with
    session := x.session.step e
    fault := if x.writes e then none else x.fault }

def settle : Nat → Scene τ → Scene τ
  | 0, x => x
  | fuel + 1, x =>
    match x.event? with
    | none => x
    | some e => (x.after e).settle fuel

/-- Lets everyone move until nobody can. No caller takes more than sixteen steps between two
answers from outside. -/
def settled (x : Scene τ) : Scene τ := x.settle (16 * (x.session.callers.length + 1))

def happen (e : Event τ) (x : Scene τ) : Scene τ := (x.after e).settled

def call (i : Invocation τ) (opening : Option (Option Failure)) (x : Scene τ) : Scene τ :=
  let number := x.session.callers.length
  { x with openings := (opening.map (number, ·)).toList ++ x.openings }.happen (.call i)

def hasConnection (x : Scene τ) : Bool := x.session.connection.isSome

def deliver (f : Frame) (x : Scene τ) : Option (Scene τ) :=
  if x.hasConnection then some (x.happen (.frame f)) else none

def breakReading (f : Failure) (x : Scene τ) : Option (Scene τ) :=
  if x.hasConnection then some (settled { x with broken := x.broken.or (some f) }) else none

def failNextWrite (f : Failure) (x : Scene τ) : Option (Scene τ) :=
  if x.hasConnection then some { x with fault := some f } else none

def finishOpening (n : Nat) (outcome : Option Failure) (x : Scene τ) : Option (Scene τ) :=
  match x.phase? n with
  | some (.opening _) => some (x.happen (.move n (.opened outcome)))
  | _ => none

def finishUpload (n : Nat) (outcome : Http.Outcome) (x : Scene τ) : Option (Scene τ) :=
  match x.phase? n with
  | some (.uploading _ _ _ _) => some (x.happen (.move n (.answered outcome)))
  | _ => none

def hold (x : Scene τ) : Scene τ := { x with holding := true }

def release (x : Scene τ) : Scene τ :=
  x.held.foldl
    (fun x n ↦ { x with held := x.held.filter (· ≠ n) }.happen (.move n .go))
    { x with holding := false }

/-- The wait that ends first, if it ends by `limit`; of those that end together, the one that began
first. -/
def nextExpiry (limit : τ) (x : Scene τ) : Option (Nat × τ) :=
  x.waiting.foldl
    (fun best n ↦
      if x.held.contains n || !x.isPending n then best
      else
        match (x.phase? n).bind Phase.wake?, best with
        | none, _ => best
        | some wake, none => if Clock.lt limit wake then none else some (n, wake)
        | some wake, some (_, first) => if Clock.lt wake first then some (n, wake) else best)
    none

/-- Moves the clock on to `limit`, with every wait that ends by then ending at its own time. -/
def moveTo (limit : τ) : Nat → Scene τ → Scene τ
  | 0, x => x.happen (.clock limit)
  | fuel + 1, x =>
    match x.nextExpiry limit with
    | none => x.happen (.clock limit)
    | some (n, wake) => moveTo limit fuel (((x.after (.clock wake)).happen (.move n .struck)))

def advance (span : τ) (x : Scene τ) : Scene τ :=
  x.moveTo (Clock.add x.session.now span) x.session.callers.length

end Scene

end VerdictClient.Session
