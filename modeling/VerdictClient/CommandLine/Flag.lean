import VerdictClient.CommandLine.Usage
import VerdictClient.Text.Similar

namespace VerdictClient.CommandLine

inductive Flag where
  | version
  | url
  | token
  | clientId
  | clientSecret
  | tokenUrl
  | timeout
  | verbose
  | help
  deriving DecidableEq, Repr

namespace Flag

def long : Flag → Text
  | version => "--version"
  | url => "--url"
  | token => "--token"
  | clientId => "--client-id"
  | clientSecret => "--client-secret"
  | tokenUrl => "--token-url"
  | timeout => "--timeout"
  | verbose => "--verbose"
  | help => "--help"

def short? : Flag → Option CodePoint
  | verbose => some 'v'
  | _ => none

def takesValue : Flag → Bool
  | url | token | clientId | clientSecret | tokenUrl | timeout => true
  | version | verbose | help => false

def general : List Flag :=
  [version, url, token, clientId, clientSecret, tokenUrl, timeout, verbose, help]

def ofCommand : List Flag := [help]

end Flag

/-- Options with their values, in order, and the arguments that are no options. A switch has the
empty value. -/
structure Parsed where
  given : List (Flag × Text)
  rest : List Text
  deriving DecidableEq, Repr

def Parsed.give (given : List (Flag × Text)) (p : Parsed) : Parsed := { p with given := given ++ p.given }

def Parsed.value? (f : Flag) (p : Parsed) : Option Text := p.given.reverse.lookup f

structure Taken where
  given : List (Flag × Text)
  open? : Option Flag
  deriving DecidableEq, Repr

def isOption (t : Text) : Bool := t.head? = some (.char '-') && 1 < t.length

def splitValue (t : Text) : Text × Option Text :=
  match t.span (· != .char '=') with
  | (name, _ :: value) => (name, some value)
  | (name, []) => (name, none)

def takeLong (f : Flag) (value : Option Text) : Except UsageError Taken :=
  match f.takesValue, value with
  | true, some v => .ok ⟨[(f, v)], none⟩
  | true, none => .ok ⟨[], some f⟩
  | false, some _ => .error (.unwantedValue f.long)
  | false, none => .ok ⟨[(f, [])], none⟩

/-- Options by their letters; what follows the letter of an option with a value is the value. -/
def takeLetters (known : List Flag) : Text → Except UsageError Taken
  | [] => .ok ⟨[], none⟩
  | c :: r =>
    match known.find? (·.short? = some c) with
    | none => .error (.noSuchOption [.char '-', c] [])
    | some f =>
      if f.takesValue then .ok (if r.isEmpty then ⟨[], some f⟩ else ⟨[(f, r)], none⟩)
      else do
        let t ← takeLetters known r
        return { t with given := (f, []) :: t.given }

def take (known : List Flag) (t : Text) : Except UsageError Taken :=
  let (name, value) := splitValue t
  match known.find? (·.long = name) with
  | some f => takeLong f value
  | none =>
    if t.take 2 = "--" then .error (.noSuchOption name (Text.similar name (known.map Flag.long)))
    else takeLetters known (t.drop 1)

/-- Reads arguments, the first of which may be the value of an option. Two hyphens end the options.
If options are not `mixed` with other arguments, the first of the others ends them too. -/
def parse (known : List Flag) (mixed : Bool) : Option Flag → List Text → Except UsageError Parsed
  | none, [] => .ok ⟨[], []⟩
  | some f, [] => .error (.noValue f.long)
  | some f, v :: r => (parse known mixed none r).map (·.give [(f, v)])
  | none, a :: r =>
    if a = "--" then .ok ⟨[], r⟩
    else if isOption a then do
      let t ← take known a
      let p ← parse known mixed t.open? r
      return p.give t.given
    else if mixed then (parse known mixed none r).map fun p ↦ { p with rest := a :: p.rest }
    else .ok ⟨[], a :: r⟩

end VerdictClient.CommandLine
