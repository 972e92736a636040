import VerdictClient.CommandLine.Options
import VerdictClient.CommandLine.Pool
import VerdictClient.Session.Conversation
import VerdictClient.Session.Settings

namespace VerdictClient

def Error.isOwn : Error → Bool
  | authentication _ | state _ | closed _ | upload _ | timedOut _ => true
  | _ => false

/-- Whether an error can be the answer for one subject, beside verdicts on others. -/
def Error.isAnswer : Error → Bool
  | invalidDigest _ | invalidFields _ _ | unencodable _ | file _ => true
  | passed f => f.isSystem || (f matches .value _)
  | e => e.isOwn

namespace CommandLine

/-- A terminal with its own language of marks: what it shows for a text, or why it refuses to. -/
abbrev Terminal := Text → Except Text Text

structure Row where
  subject : Text
  result : Except Error Classification

def color : Verdict → Text
  | .clean => "green"
  | .malicious => "red"
  | .pup => "yellow"
  | .unknown => "blue"

def colored (name t : Text) : Text := "[" ++ name ++ "]" ++ t ++ "[/" ++ name ++ "]"

/-- Subject, verdict, detection and digest. Marks give the verdict its colour; what the other cells hold
is handed to the terminal as it is. -/
def Row.cells (r : Row) : List Text :=
  match r.result with
  | .error e => [r.subject, colored "red" "error", e.message, []]
  | .ok c => [r.subject, colored (color c.verdict) c.verdict.name, c.detection.getD [], c.sha256]

def Row.isBad (r : Row) : Bool :=
  match r.result with
  | .error _ => true
  | .ok c => c.verdict = .malicious

inductive Ending where
  | refusal (r : Refusal)
  | failed (e : Error)
  | unexpected (e : Error)
  /-- The service never answered. -/
  | unanswered
  | verdicts (rows : List Row)

def Ending.ofError (e : Error) : Ending := if e.isOwn then failed e else unexpected e

def versionLine : Text := "vaas, version 0.1.0"

def usageLine (e : UsageError) : Text := "Error: " ++ e.message

def failureLine (e : Error) : Text := colored "red" "Error:" ++ " " ++ e.message

def Ending.marked : Ending → List (List Text)
  | failed e => [[failureLine e]]
  | verdicts rows => rows.map Row.cells
  | refusal _ | unexpected _ | unanswered => []

/-- What the terminal shows: all lines, or none if it refuses a cell. -/
def Ending.display (term : Terminal) (e : Ending) : Except Text (List (List Text)) :=
  e.marked.mapM fun line ↦ line.mapM term

def Ending.code : Ending → Nat
  | refusal .version | refusal (.instructions true) => 0
  | refusal (.instructions false) | refusal (.usage _) | failed _ => 2
  | refusal (.config _) | refusal (.path _) | unexpected _ | unanswered => 1
  | verdicts rows => if rows.any Row.isBad then 1 else 0

def Ending.exitCode (term : Terminal) (e : Ending) : Nat :=
  match e.display term with
  | .ok _ => e.code
  | .error _ => 1

structure World where
  environment : Environment
  files : FileSystem
  token : Token.Request → Http.Outcome
  service : Session.Service
  terminal : Terminal

structure Report where
  ending : Ending
  tokenRequests : List Token.Request
  session : Option (Session Float)

def Command.query : Command → Text → Session.Query
  | sha256, t => .hash (.text t)
  | file, t => .file t
  | url, t => .url (.text t)

def Task.grant? (t : Task) : Option Token.Grant :=
  let id := t.config.get .clientId
  let secret := t.config.get .clientSecret
  if id.isTruthy && secret.isTruthy then some (.clientCredentials id secret) else none

abbrev Outcome := Except Error (Option Classification)

/-- The pool of subjects, and the session over which they are asked for. The caller with the number
zero opened the session; after it comes a caller for each subject. -/
structure Work where
  pool : Pool Outcome
  talk : Session.Conversation Float

namespace Work

def caller (subject : Nat) : Nat := subject + 1

def noted (x : Work) : Work :=
  { x with pool := x.pool.run (x.pool.busy.filterMap fun i ↦
      (x.talk.result? (caller i)).map (.finished i)) }

def step (w : Session.Service) (ask : Nat → Session.Query) (x : Work) : Option Work :=
  match x.pool.next? with
  | some i => some (noted ⟨x.pool.step .begun, x.talk.begin w (.ask ⟨ask i, .null, none⟩)⟩)
  | none => (x.talk.respond w).map fun talk ↦ noted { x with talk := talk }

def run (w : Session.Service) (ask : Nat → Session.Query) : Nat → Work → Work
  | 0, x => x
  | n + 1, x =>
    match x.step w ask with
    | some x => x.run w ask n
    | none => x

/-- Asks for everything. A subject needs one step to begin with it and no more than five responses. -/
def all (w : Session.Service) (ask : Nat → Session.Query) (count : Nat)
    (talk : Session.Conversation Float) : Work :=
  run w ask (6 * (count + 1)) ⟨.start count, talk⟩

end Work

/-- What the outcomes say: rows, unless one is an error that is no answer. -/
def Ending.ofOutcomes : List (Text × Option Outcome) → Ending
  | [] => .verdicts []
  | (t, r) :: rs =>
    let more (row : Row) : Ending :=
      match ofOutcomes rs with
      | .verdicts rows => .verdicts (row :: rows)
      | e => e
    match r with
    | some (.ok (some c)) => more ⟨t, .ok c⟩
    | some (.error e) => if e.isAnswer then more ⟨t, .error e⟩ else .unexpected e
    | some (.ok none) | none => .unanswered

def Task.query (t : Task) (i : Nat) : Session.Query := t.command.query (t.subjects.getD i [])

def Task.converse (t : Task) (w : World) (token : Value) : Ending × Session Float :=
  let x : Session.Conversation Float := .start (Session.start (.ofConfig t.config) w.files)
  let (r, x) := x.call w.service (.connect token)
  match r with
  | some (.ok _) =>
    let x := Work.all w.service t.query t.subjects.length x
    (.ofOutcomes (t.subjects.zip x.pool.outcomes), (x.talk.call w.service .close).2.scene.session)
  | some (.error e) => (.ofError e, (x.call w.service .close).2.scene.session)
  | none => (.unanswered, x.scene.session)

def Task.run (t : Task) (w : World) : Report :=
  match t.token.filter (!·.isEmpty) with
  | some token =>
    let (ending, s) := t.converse w (.text token)
    ⟨ending, [], some s⟩
  | none =>
    match t.grant? with
    | none => ⟨.refusal (.usage .noCredentials), [], none⟩
    | some g =>
      let x := g.exchange (t.config.get .tokenUrl) Token.defaultTimeout w.token
      match x.result with
      | .error e => ⟨.ofError e, [x.request], none⟩
      | .ok token =>
        let (ending, s) := t.converse w token
        ⟨ending, [x.request], some s⟩

def run (w : World) (args : List Text) : Report :=
  match Task.read w.environment w.files args with
  | .error r => ⟨.refusal r, [], none⟩
  | .ok t => t.run w

end CommandLine

end VerdictClient
