import VerdictClient.Session

namespace VerdictClient.Session

variable {τ : Type}

def closeStep (s : Session τ) : Phase τ × Session τ :=
  (.failAll (s.state = .closed) s.installed, { s with state := .closed })

def failAllStep (wasClosed hasTransport : Bool) (s : Session τ) : Phase τ × Session τ :=
  (.disconnect wasClosed hasTransport, s.withReceiver (s.receiver.failRequests .sessionClosed))

def disconnectStep (wasClosed hasTransport : Bool) (s : Session τ) : Phase τ × Session τ :=
  (.join wasClosed, if hasTransport then s.closeConnection else s)

def joinStep (wasClosed : Bool) (s : Session τ) : Phase τ × Session τ :=
  (.ended (.ok none),
    if wasClosed then s else s.logged .info ("Session to " ++ s.shownUrl ++ " closed"))

def frameStep (f : Frame) (s : Session τ) : Session τ :=
  match s.reader with
  | .reading =>
    match s.receiver.dispatch f with
    | (.ok _, r) => s.withReceiver r
    | (.error c, r) => { s.withReceiver r with reader := .failWaiter (.tooDeep c) }
  | _ => s

def lostStep (f : Failure) (s : Session τ) : Session τ :=
  match s.reader, s.connection with
  | .reading, some t =>
    { s with connection := some (t.fail f).2, reader := .failWaiter (t.fail f).1 }
  | _, _ => s

/-- An authenticated session whose connection is lost is closed. -/
def reportLoss (cause : ClosedCause) (s : Session τ) : Session τ :=
  if s.state = .authenticated then
    { s with state := .closed }.logged .warning
      ("Connection to " ++ s.shownUrl ++ " lost: " ++ cause.message)
  else s

def readerStep (s : Session τ) : Session τ :=
  match s.reader with
  | .failWaiter e =>
    let cause := Receiver.closingCause e
    { s.withReceiver ((s.receiver.noteEnd e).failWaiter cause) with reader := .failRequests cause }
  | .failRequests cause =>
    { s.withReceiver (s.receiver.failRequests cause) with reader := .report cause }
  | .report cause => { s.reportLoss cause with reader := .ended }
  | .idle | .reading | .ended => s

end VerdictClient.Session
