import VerdictClient.CommandLine.Flag
import VerdictClient.Config.Load

namespace VerdictClient.CommandLine

inductive Command where
  | sha256
  | file
  | url
  deriving DecidableEq, Repr

namespace Command

def name : Command → Text
  | sha256 => "sha256"
  | file => "file"
  | url => "url"

def all : List Command := [file, sha256, url]

def ofName? (t : Text) : Option Command := all.find? (·.name = t)

def argument : Command → Text
  | sha256 => "HASHES..."
  | file => "PATHS..."
  | url => "URLS..."

end Command

inductive Refusal where
  | version
  | instructions (asked : Bool)
  | usage (e : UsageError)
  | config (e : Config.LoadError)
  | path (e : FileError)
  deriving DecidableEq

structure Options where
  url : Option Text
  token : Option Text
  clientId : Option Text
  clientSecret : Option Text
  tokenUrl : Option Text
  timeout : Option Float

def Flag.standIn? : Flag → Option Text
  | url => some "VAAS_URL"
  | token => some "VAAS_TOKEN"
  | clientId => some "VAAS_CLIENT_ID"
  | clientSecret => some "VAAS_CLIENT_SECRET"
  | tokenUrl => some "VAAS_TOKEN_URL"
  | version | timeout | verbose | help => none

def Parsed.setting? (env : Environment) (f : Flag) (p : Parsed) : Option Text :=
  (p.value? f).or (f.standIn?.bind env.nonEmpty?)

def Parsed.stop? (p : Parsed) : Option Refusal :=
  p.given.findSome? fun
    | (.version, _) => some .version
    | (.help, _) => some (.instructions true)
    | _ => none

def Parsed.timeout (p : Parsed) : Except Refusal (Option Float) :=
  match p.value? .timeout with
  | none => .ok none
  | some t =>
    match Float.read t with
    | some x => .ok (some x)
    | none => .error (.usage (.notNumber Flag.timeout.long t))

def Options.ofParsed (env : Environment) (p : Parsed) : Except Refusal Options := do
  let timeout ← p.timeout
  return {
    url := p.setting? env .url
    token := p.setting? env .token
    clientId := p.setting? env .clientId
    clientSecret := p.setting? env .clientSecret
    tokenUrl := p.setting? env .tokenUrl
    timeout := timeout }

def Options.read (env : Environment) (args : List Text) : Except Refusal (Options × List Text) := do
  if args.isEmpty then throw (.instructions false)
  let p ← (parse Flag.general false none args).mapError .usage
  match p.stop? with
  | some r => throw r
  | none =>
    let o ← ofParsed env p
    return (o, p.rest)

def overlayText (f : Config.Field) (t : Option Text) (c : Config) : Config :=
  match t with
  | some t => if t.isEmpty then c else c.set f (.text t)
  | none => c

/-- The options overlay the settings; one that is empty says nothing. -/
def Options.overlay (o : Options) (c : Config) : Config :=
  let c := overlayText .url o.url c
  let c := overlayText .clientId o.clientId c
  let c := overlayText .clientSecret o.clientSecret c
  let c := overlayText .tokenUrl o.tokenUrl c
  match o.timeout with
  | some x => c.set .timeout (.float x)
  | none => c

/-- The command of a name. A name that has the form of an option, behind two hyphens, is looked at
as one first. -/
def Command.read (env : Environment) (name : Text) (rest : List Text) : Except Refusal Command := do
  match ofName? name with
  | some c => return c
  | none =>
    if isOption name then discard (Options.read env (name :: rest))
    throw (.usage (.noSuchCommand name (Text.similar name (all.map Command.name))))

def pathError? (fs : FileSystem) (argument path : Text) : Option Refusal :=
  match Path.fault? path, fs.find path with
  | some e, _ => some (.path e)
  | none, .file _ => none
  | none, .directory => some (.usage (.isDirectory argument (Path.legible path)))
  | none, .missing | none, .blocked | none, .tooLong =>
    some (.usage (.missingFile argument (Path.legible path)))

def Command.subjects (c : Command) (fs : FileSystem) (args : List Text) :
    Except Refusal (List Text) := do
  let p ← (parse Flag.ofCommand true none args).mapError .usage
  match p.stop? with
  | some r => throw r
  | none =>
    if p.rest.isEmpty then throw (.usage (.missingArgument c.argument))
    if c = .file then
      match p.rest.findSome? (pathError? fs c.argument) with
      | some r => throw r
      | none => return p.rest
    return p.rest

structure Task where
  config : Config
  token : Option Text
  command : Command
  subjects : List Text

/-- Reads the arguments. The command has to be known before the settings are loaded, and they have
to be there before its own arguments are read. -/
def Task.read (env : Environment) (fs : FileSystem) (args : List Text) : Except Refusal Task := do
  let (o, rest) ← Options.read env args
  match rest with
  | [] => throw (.usage .missingCommand)
  | name :: rest =>
    let command ← Command.read env name rest
    let c ← (Config.load env fs none).mapError .config
    let subjects ← command.subjects fs rest
    return ⟨o.overlay c, o.token, command, subjects⟩

end VerdictClient.CommandLine
