import VerdictClient.Session

namespace VerdictClient.Session

variable {τ : Type}

/-- A connection attempt that was not completed has failed, unless the session is closed by now. -/
def failConnecting (s : Session τ) : Session τ :=
  if s.state = .connecting then { s with state := .failed } else s

def connectStep (token : Value) (s : Session τ) : Phase τ × Session τ :=
  if s.state = .disconnected then
    (.opening token, { s with
      state := .connecting
      openings := s.openings ++ [⟨s.settings.url, s.settings.keepAlive, Opening.usualPatience⟩] })
  else (.ended (.error (.state (.connectAgain s.state))), s)

def closedBy (e : Error) (s : Session τ) : Session τ :=
  match e with
  | .closed _ => { s with state := .closed }
  | _ => s

def openingStep (token : Value) (outcome : Option Failure) (s : Session τ) : Phase τ × Session τ :=
  match Transport.openResult s.settings.url outcome with
  | .ok t => (.install token, { s with
      connection := some t, log := s.log ++ [Transport.openedLine s.settings.url] })
  | .error e => (.ended (.error e), s.closedBy e)

def installStep (token : Value) (s : Session τ) : Phase τ × Session τ :=
  if s.state = .closed then (.leave (.closed .duringConnect), s)
  else (.announce token, { s with installed := true })

def announceStep (token : Value) (s : Session τ) : Phase τ × Session τ :=
  (.greet token s.receiver.expectAuth.1,
    { s.withReceiver s.receiver.expectAuth.2 with reader := .reading })

def greeting (token : Value) : Except Error Text :=
  match authOfFields [("token", token)] with
  | .error faults => .error (.invalidFields OutboundKind.auth.name faults)
  | .ok m => m.encode.mapError .unencodable

/-- For how long the answer to the handshake is waited for, if there is an end to it, or why nobody can
wait so long. -/
def patience [Clock τ] (s : Session τ) : Except Error (Option τ) :=
  match s.settings.timeout with
  | .after span => if Clock.outlasts span then .error (.timeoutRange false) else .ok (some span)
  | .whole span => if Clock.outlasts span then .error (.timeoutRange true) else .ok (some span)
  | .oversized true => .error (.timeoutRange true)
  | .oversized false => .ok (some Clock.zero)
  | .never => .ok none
  | .unusable name => .error (.timeoutOrder name)

def authWake [Clock τ] (s : Session τ) : Option τ :=
  match s.patience with
  | .ok (some span) => some (Clock.wake s.now (Clock.add s.now span))
  | _ => none

def greetStep [Clock τ] (token : Value) (waiter : Nat) (outcome : Option Failure) (s : Session τ) :
    Phase τ × Session τ :=
  match greeting token with
  | .error e => (.ended (.error e), s)
  | .ok frame =>
    match s.write frame outcome with
    | (.error e, s) => (.ended (.error e), s.closedBy e)
    | (.ok _, s) => (.awaitAuth waiter s.authWake, s)

/-- What becomes of the caller once its waiter is settled, or if nobody can wait for that. -/
def authSettled [Clock τ] (outcome : Future AuthResponse) (s : Session τ) :
    Option (Phase τ × Session τ) :=
  match outcome with
  | .pending =>
    match s.patience with
    | .ok _ => none
    | .error e => some (.ended (.error e), s)
  | .done r => some (.enter r, s)
  | .failed (.authentication c) => some (.ended (.error (.authentication c)), s.failConnecting)
  | .failed e => some (.ended (.error e), s.closedBy e)
  | .cancelled => some (.ended (.error (.closed .unnamed)), s.closedBy (.closed .unnamed))

/-- The time for the handshake is over, whatever arrives now. -/
def giveUpStep (s : Session τ) : Phase τ × Session τ :=
  (.ended (.error (.timedOut .noAuthentication)),
    (s.withReceiver s.receiver.cancelAuth).failConnecting)

def grantedId? (r : AuthResponse) : Option Text :=
  if r.success then r.sessionId.filter (!·.isEmpty) else none

def refusal (r : AuthResponse) : AuthenticationCause := .rejected (r.text.filter (!·.isEmpty))

def enterStep (r : AuthResponse) (s : Session τ) : Phase τ × Session τ :=
  match grantedId? r with
  | none => (.ended (.error (.authentication (refusal r))), s.failConnecting)
  | some id =>
    if s.state = .connecting then
      (.ended (.ok none),
        { s with state := .authenticated, sessionId := some id }.logged .info
          ("Authenticated to " ++ s.shownUrl ++ " (session " ++ id ++ ")"))
    else (.leave (.closed .duringConnect), s)

def leaveStep (e : Error) (s : Session τ) : Phase τ × Session τ :=
  (.ended (.error e), s.closeConnection)

end VerdictClient.Session
