import VerdictClient.Digest
import VerdictClient.Guid
import VerdictClient.Session

namespace VerdictClient.Session

variable {τ : Type}

def authorization (s : Session τ) : Except Error Text :=
  match s.state with
  | .disconnected => .error (.state .notConnected)
  | .connecting => .error (.state .connectNotCompleted)
  | .failed => .error (.state .authenticationFailed)
  | .closed => .error (.closed .unnamed)
  | .authenticated =>
    if s.transport?.all (·.closed) then .error (.closed .unnamed)
    else
      match s.sessionId with
      | none => .error (.state .noSessionId)
      | some id => .ok id

def Query.refused? : Query → Option Error
  | hash (.text t) => if Digest.IsDigest t then none else some (.invalidDigest t)
  | hash v => some (.digestType v.typeName)
  | _ => none

def Query.kind : Query → OutboundKind
  | hash _ | file _ | buffer _ => .hash
  | url _ => .url
  | stream _ _ => .stream

def Query.fields (fs : FileSystem) : Query → Except FileError Fields
  | hash (.text t) => .ok [("sha256", .text t.lower)]
  | hash v => .ok [("sha256", v)]
  | url address => .ok [("url", address)]
  | file path => (fs.read path).map fun content ↦ [("sha256", .text (Digest.ofFile content))]
  | buffer content => .ok [("sha256", .text (Digest.ofBytes content))]
  | stream _ _ => .ok []

def Query.content? : Query → Option (Upload.Content × Option Value)
  | file path => some (.path (Path.normal path), none)
  | buffer content => some (.bytes content, none)
  | stream content length => some (.stream content, length)
  | _ => none

def chooseGuid (given : Value) (s : Session τ) : Value × Session τ :=
  if given.isTruthy then (given, s)
  else (.text (Guid.ofNat (s.guids + 1)), { s with guids := s.guids + 1 })

def requestFields (id : Text) (subject : Fields) (guid : Value) (s : Session τ) : Fields :=
  let options : Fields :=
    [("guid", guid), ("use_cache", s.settings.useCache), ("use_hash_lookup", s.settings.useHashLookup)]
  ("session_id", .text id) :: (subject ++ options)

def prepare (a : Ask τ) (s : Session τ) : Except Error (Job τ) × Session τ :=
  match a.query.refused? with
  | some e => (.error e, s)
  | none =>
    match s.authorization with
    | .error e => (.error e, s)
    | .ok id =>
      match a.query.fields s.files with
      | .error e => (.error (.file e), s)
      | .ok subject =>
        let (guid, s) := s.chooseGuid a.guid
        match VerdictRequest.ofFields a.query.kind (s.requestFields id subject guid) with
        | .error faults => (.error (.invalidFields a.query.kind.name faults), s)
        | .ok r => (.ok ⟨r, a.query.content?, a.timeout.getD s.settings.timeout⟩, s)

def askStep (a : Ask τ) (s : Session τ) : Phase τ × Session τ :=
  match s.prepare a with
  | (.error e, s) => (.ended (.error e), s)
  | (.ok j, s) => (.check j, s)

def checkStep (j : Job τ) (s : Session τ) : Phase τ × Session τ :=
  if s.transport?.all (·.closed) then (.ended (.error (.closed .unnamed)), s) else (.register j, s)

def registerStep [Clock τ] (j : Job τ) (s : Session τ) : Phase τ × Session τ :=
  match s.correlator.register s.now j.request.guid j.timeout false with
  | .error e => (.ended (.error e), s)
  | .ok (ticket, c) => (.send j ticket, s.withCorrelator c)

def wakeOf [Clock τ] (ticket : Nat) (s : Session τ) : τ :=
  match s.correlator.ticket? ticket with
  | some t => Clock.wake s.now t.deadline
  | none => s.now

def sendStep [Clock τ] (j : Job τ) (ticket : Nat) (outcome : Option Failure) (s : Session τ) :
    Phase τ × Session τ :=
  match (Outbound.verdict j.request).encode with
  | .error e => (.ended (.error (.unencodable e)), s)
  | .ok frame =>
    match s.write frame outcome with
    | (.error (.closed c), s) => (.abandon j.request.guid (.closed c), s)
    | (.error e, s) => (.ended (.error e), s)
    | (.ok _, s) =>
      (.await j .first ticket (s.wakeOf ticket),
        s.logged .debug ("Sent " ++ j.request.subject.kind.name ++ " " ++ j.request.guid))

/-- What becomes of a caller that got the answer it waited for. -/
def received (j : Job τ) (stage : Stage) : Except Error VerdictResponse → Phase τ
  | .error e => .ended (.error e)
  | .ok r =>
    match stage, j.content with
    | .first, some (content, length) =>
      if r.verdict = .unknown then
        match r.uploadTarget? with
        | none => .ended (.error (.upload (.noTarget j.request.guid)))
        | some (url, token) => .registerFinal j ⟨url, token⟩ content length
      else .ended (.ok (some (.ofResponse r)))
    | _, _ => .ended (.ok (some (.ofResponse r)))

/-- The caller goes on once its ticket is settled, or if nobody can wait for that. -/
def awaitSettled [Clock τ] (j : Job τ) (stage : Stage) (ticket : Nat) (s : Session τ) :
    Option (Phase τ) :=
  match s.correlator.ticket? ticket with
  | none => none
  | some t =>
    match Correlator.answer? t with
    | some a => some (received j stage a)
    | none => if Correlator.outlasts s.now t then some (.ended (.error (.timeoutRange false))) else none

def expireStep (j : Job τ) (stage : Stage) (ticket : Nat) (s : Session τ) : Phase τ × Session τ :=
  let s := s.withCorrelator (s.correlator.forget ticket)
  match s.correlator.ticket? ticket with
  | none => (.expire j stage ticket, s)
  | some t => (received j stage (Correlator.lateAnswer t), s)

def registerFinalStep [Clock τ] (j : Job τ) (target : Upload.Target) (content : Upload.Content)
    (length : Option Value) (s : Session τ) : Phase τ × Session τ :=
  match s.correlator.register s.now j.request.guid j.timeout true with
  | .error e => (.ended (.error e), s)
  | .ok (ticket, c) => (.upload j ticket target content length, s.withCorrelator c)

/-- A failed upload gives up what was registered for it; a failure of another kind does not. -/
def uploadFailed (j : Job τ) : Error → Phase τ
  | .upload c => .abandon j.request.guid (.upload c)
  | e => .ended (.error e)

def uploadStep (caller : Nat) (j : Job τ) (ticket : Nat) (target : Upload.Target)
    (content : Upload.Content) (length : Option Value) (s : Session τ) : Phase τ × Session τ :=
  match Upload.start s.files target ⟨s.settings.uploadTimeout, length⟩ content with
  | .error e => (uploadFailed j e, s)
  | .ok put => (.uploading j ticket target content, { s with puts := s.puts ++ [(caller, put)] })

def uploadingStep (j : Job τ) (ticket : Nat) (target : Upload.Target) (content : Upload.Content)
    (outcome : Http.Outcome) (s : Session τ) : Phase τ × Session τ :=
  match Upload.finish target content outcome with
  | .error e => (uploadFailed j e, s)
  | .ok line => (.restart j ticket, { s with log := s.log ++ [line] })

/-- The time for the final verdict begins when the upload has ended. -/
def restartStep [Clock τ] (j : Job τ) (ticket : Nat) (s : Session τ) : Phase τ × Session τ :=
  match Correlator.deadline s.now j.timeout with
  | .error e => (.ended (.error e), s)
  | .ok d =>
    let s := s.withCorrelator (s.correlator.restart ticket d)
    (.await j .final ticket (s.wakeOf ticket),
      s.logged .debug ("Uploaded " ++ j.request.guid ++ ", waiting for final verdict"))

def abandonStep (guid : Text) (e : Error) (s : Session τ) : Phase τ × Session τ :=
  (.ended (.error e), s.withCorrelator (s.correlator.discard guid))

end VerdictClient.Session
