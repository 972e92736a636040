import VerdictClient.Http

namespace VerdictClient.Token

inductive Grant where
  | clientCredentials (clientId clientSecret : Value)
  | password (clientId username password : Value)

def defaultTimeout : Value := .float 30.0

structure Request where
  url : Value
  form : List (Text × Value)
  timeout : Value

def contentType : Text := "application/x-www-form-urlencoded"

def Grant.form : Grant → List (Text × Value)
  | .clientCredentials clientId clientSecret =>
    [("client_id", clientId), ("client_secret", clientSecret),
      ("grant_type", .text "client_credentials")]
  | .password clientId username secret =>
    [("client_id", clientId), ("username", username), ("password", secret),
      ("grant_type", .text "password")]

def Grant.request (g : Grant) (url timeout : Value) : Request := ⟨url, g.form, timeout⟩

/-- The token that an answer holds, of whatever type it is there. -/
def held (r : Http.Response) : Except Error Value :=
  match r.json with
  | .ok (.map es) =>
    match Value.get? "access_token" es with
    | some token => .ok token
    | none => .error (.authentication .noToken)
  | .ok _ => .error (.authentication .noToken)
  | .error (.json _ (.tooDeep c)) => .error (.tooDeep c)
  | .error _ => .error (.authentication .noToken)

def result (url : Text) : Http.Outcome → Except Error Value
  | .error f =>
    if f.isHttp then .error (.authentication (.tokenRequest url f.text)) else .error (.ofFailure f)
  | .ok r =>
    if r.status = 200 then held r
    else .error (.authentication (.tokenRefused r.status r.excerpt))

def obtainedLine (url : Text) : LogLine := ⟨.debug, .token, "Obtained access token from " ++ url⟩

structure Exchange where
  request : Request
  result : Except Error Value
  log : List LogLine

def Grant.conclude (g : Grant) (url timeout : Value) (o : Http.Outcome) : Exchange :=
  let request := g.request url timeout
  match result url.plain o with
  | .ok token => ⟨request, .ok token, [obtainedLine url.plain]⟩
  | .error e => ⟨request, .error e, []⟩

/-- Requests a token through `post`, which may do more than answer. -/
def Grant.obtain {m : Type → Type} [Monad m] (g : Grant) (url timeout : Value)
    (post : Request → m Http.Outcome) : m Exchange :=
  return g.conclude url timeout (← post (g.request url timeout))

def Grant.exchange (g : Grant) (url timeout : Value) (answer : Request → Http.Outcome) : Exchange :=
  g.conclude url timeout (answer (g.request url timeout))

def recording (answer : Request → Http.Outcome) (q : Request) : StateM (List Request) Http.Outcome := do
  modify (· ++ [q])
  return answer q

end VerdictClient.Token
