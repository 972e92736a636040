import VerdictClient.Error
import VerdictClient.Log

namespace VerdictClient

structure Opening where
  url : Value
  keepAlive : Value
  patience : Value

def Opening.usualKeepAlive : Value := .float 10.0

def Opening.usualPatience : Value := .float 10.0

structure Transport where
  closed : Bool
  taken : List Text
  closes : Nat
  deriving DecidableEq, Repr

namespace Transport

def opened : Transport := ⟨false, [], 0⟩

def openedLine (url : Value) : LogLine := ⟨.info, .transport, "Connected to " ++ url.plain⟩

/-- What becomes of an attempt to open a connection that ended as told. -/
def openResult (url : Value) : Option Failure → Except Error Transport
  | none => .ok opened
  | some f =>
    if f.refusesOpening then .error (.closed (.notOpened url.plain f.text))
    else .error (.ofFailure f)

def fail (f : Failure) (t : Transport) : Error × Transport :=
  if f.endsConnection then (.closed (.reported f.text), { t with closed := true })
  else (.ofFailure f, t)

def write (frame : Text) (outcome : Option Failure) (t : Transport) : Except Error Unit × Transport :=
  match outcome with
  | none => (.ok (), { t with taken := t.taken ++ [frame] })
  | some f => ((.error (t.fail f).1), (t.fail f).2)

def send (frame : Text) (outcome : Option Failure) (t : Transport) : Except Error Unit × Transport :=
  if t.closed then (.error (.closed .unnamed), t) else t.write frame outcome

def recv (outcome : Except Failure Frame) (t : Transport) : Except Error Frame × Transport :=
  match outcome with
  | .ok frame => (.ok frame, t)
  | .error f => ((.error (t.fail f).1), (t.fail f).2)

def close (t : Transport) : Transport :=
  if t.closed then t else { t with closed := true, closes := t.closes + 1 }

def closeResult (outcome : Option Failure) (t : Transport) : Except Error Unit :=
  match t.closed, outcome with
  | false, some f => .error (.ofFailure f)
  | _, _ => .ok ()

/-- A call, with what the connection answers if the call reaches it. -/
inductive Call where
  | send (frame : Text) (answer : Option Failure)
  | recv (answer : Except Failure Frame)
  | close (answer : Option Failure)

inductive Reply where
  | nothing
  | frame (f : Frame)

def perform (c : Call) (t : Transport) : Except Error Reply × Transport :=
  match c with
  | .send frame answer => ((t.send frame answer).1.map fun _ ↦ .nothing, (t.send frame answer).2)
  | .recv answer => ((t.recv answer).1.map .frame, (t.recv answer).2)
  | .close answer => ((t.closeResult answer).map fun _ ↦ .nothing, t.close)

def run (cs : List Call) (t : Transport) : Transport := cs.foldl (fun t c ↦ (t.perform c).2) t

/-- Reads always reach the connection, writes and attempts to close it only as long as nothing closed the
transport. -/
def reaches (c : Call) (t : Transport) : Bool :=
  match c with
  | .recv _ => true
  | .send _ _ | .close _ => !t.closed

def history : List Call → Transport → List (Call × Except Error Reply)
  | [], _ => []
  | c :: cs, t => (c, (t.perform c).1) :: history cs (t.perform c).2

end Transport

end VerdictClient
