import VerdictClient.Config
import VerdictClient.Files
import VerdictClient.Text.Encoding
import VerdictClient.Yaml

namespace VerdictClient

structure Environment where
  entries : List (Text × Text)
  /-- The directory that the account of the user names, if there is such an account. -/
  account : Option Text

namespace Environment

variable (env : Environment)

def get? (name : Text) : Option Text := env.entries.lookup name

def nonEmpty? (name : Text) : Option Text := (env.get? name).filter (!·.isEmpty)

def firstOf? (names : List Text) : Option Text := names.findSome? env.get?

/-- The directory of the user: the variable counts even if it is empty, and the account only if it is not
set. There is none if it would be named after a user. -/
def home? : Option Text := do
  let named ← (env.get? "HOME").or env.account
  let dir := (named.reverse.dropWhile (· = .char '/')).reverse
  if dir.head? = some (.char '~') then none else some (if dir.isEmpty then "/" else dir)

end Environment

namespace Config

inductive LoadError where
  | noHome
  | file (e : FileError)
  | encoding (e : Encoding.DecodeError)
  | document (path : Text) (e : Yaml.Error)
  | notMapping (path : Text)
  | mapping (e : MappingError)
  | number (t : Text)
  | switch (name t : Text)
  deriving DecidableEq

def LoadError.message : LoadError → Text
  | noHome => "Could not determine home directory."
  | file e => e.message
  | encoding e => e.message
  | document path .malformed => "Invalid config file " ++ path
  | document _ e => e.message
  | notMapping path => "Config file " ++ path ++ " must be a mapping"
  | mapping e => e.message
  | number t => Float.unreadable t
  | switch name t => name ++ " must be a boolean, got " ++ t.quoted

def usualPath (env : Environment) : Except LoadError Text :=
  match env.nonEmpty? "XDG_CONFIG_HOME" with
  | some dir => .ok (Path.inside dir "vaas/config.yaml")
  | none =>
    match env.home? with
    | some dir => .ok (Path.inside dir ".config/vaas/config.yaml")
    | none => .error .noHome

def unixLines : List Char → List Char
  | '\r' :: '\n' :: r => '\n' :: unixLines r
  | '\r' :: r => '\n' :: unixLines r
  | c :: r => c :: unixLines r
  | [] => []

def ofContent (path : Text) (content : Bytes) : Except LoadError Mapping := do
  let t ← (Encoding.decodeWhole content).mapError .encoding
  match Yaml.read (unixLines t.toString.toList) with
  | .error e => throw (.document path e)
  | .ok .null => return []
  | .ok (.map m) => return m
  | .ok _ => throw (.notMapping path)

def overlayFile (fs : FileSystem) (path : Text) (c : Config) : Except LoadError Config :=
  match fs.find path with
  | .file content => do
    let m ← ofContent path content
    (c.applyMapping m).mapError .mapping
  | .tooLong => .error (.file (.nameTooLong path))
  | _ => .ok c

def switchWords (b : Bool) : List Text :=
  if b then ["1", "true", "yes", "on"] else ["0", "false", "no", "off"]

def switch? (t : Text) : Option Bool :=
  let word := t.strip.lower
  if (switchWords true).contains word then some true
  else if (switchWords false).contains word then some false
  else none

def absences : List Text := [[], "none", "off"]

def readNumber (t : Text) : Except LoadError Value :=
  match Float.read t with
  | some x => .ok (.float x)
  | none => .error (.number t)

def readOptionalNumber (t : Text) : Except LoadError Value :=
  if absences.contains t.strip.lower then .ok .null else readNumber t

def readSwitch (name t : Text) : Except LoadError Value :=
  match switch? t with
  | some b => .ok (.bool b)
  | none => .error (.switch name t)

def setFrom (f : Field) (t : Option Text) (read : Text → Except LoadError Value) (c : Config) :
    Except LoadError Config :=
  match t with
  | some t => (read t).map (c.set f)
  | none => .ok c

/-- Overlays what stands in the environment. A variable set to nothing counts for texts and for
numbers that may be absent, and for nothing else. -/
def overlayEnvironment (env : Environment) (c : Config) : Except LoadError Config := do
  let text (t : Text) : Except LoadError Value := .ok (.text t)
  let c ← c.setFrom .url (env.get? "VAAS_URL") text
  let c ← c.setFrom .tokenUrl (env.get? "VAAS_TOKEN_URL") text
  let c ← c.setFrom .clientId (env.firstOf? ["VAAS_CLIENT_ID", "CLIENT_ID"]) text
  let c ← c.setFrom .clientSecret (env.firstOf? ["VAAS_CLIENT_SECRET", "CLIENT_SECRET"]) text
  let c ← c.setFrom .timeout (env.nonEmpty? "VAAS_TIMEOUT") readNumber
  let c ← c.setFrom .uploadTimeout (env.get? "VAAS_UPLOAD_TIMEOUT") readOptionalNumber
  let c ← c.setFrom .keepAlive (env.get? "VAAS_KEEP_ALIVE") readOptionalNumber
  let c ← c.setFrom .useCache (env.nonEmpty? "VAAS_USE_CACHE") (readSwitch "VAAS_USE_CACHE")
  c.setFrom .useHashLookup (env.nonEmpty? "VAAS_USE_HASH_LOOKUP") (readSwitch "VAAS_USE_HASH_LOOKUP")

def load (env : Environment) (fs : FileSystem) (path : Option Text) : Except LoadError Config := do
  let path ← match path with
    | some p => pure (Path.normal p)
    | none => usualPath env
  let c ← overlayFile fs path default
  overlayEnvironment env c

end Config

end VerdictClient
