import VerdictClient.Value

namespace VerdictClient

namespace Config

inductive Field where
  | url
  | tokenUrl
  | clientId
  | clientSecret
  | timeout
  | uploadTimeout
  | keepAlive
  | useCache
  | useHashLookup
  deriving DecidableEq, Repr

namespace Field

def name : Field → Text
  | url => "url"
  | tokenUrl => "token_url"
  | clientId => "client_id"
  | clientSecret => "client_secret"
  | timeout => "timeout"
  | uploadTimeout => "upload_timeout"
  | keepAlive => "keep_alive_interval"
  | useCache => "use_cache"
  | useHashLookup => "use_hash_lookup"

def all : List Field :=
  [url, tokenUrl, clientId, clientSecret, timeout, uploadTimeout, keepAlive, useCache, useHashLookup]

def ofName? (t : Text) : Option Field := all.find? (·.name = t)

def ofKey? : Value → Option Field
  | .text t => ofName? t
  | _ => none

end Field

def defaultUrl : Text := "wss://gateway.production.vaas.gdatasecurity.de"

def defaultTokenUrl : Text :=
  "https://account.gdata.de/realms/vaas-production/protocol/openid-connect/token"

end Config

structure Config where
  get : Config.Field → Value

namespace Config

def default : Config where
  get
    | .url => .text defaultUrl
    | .tokenUrl => .text defaultTokenUrl
    | .clientId | .clientSecret => .text []
    | .timeout => .float 600.0
    | .keepAlive => .float 10.0
    | .uploadTimeout | .useCache | .useHashLookup => .null

def set (f : Field) (v : Value) (c : Config) : Config := ⟨fun g ↦ if g = f then v else c.get g⟩

abbrev Mapping := List (Value × Value)

inductive MappingError where
  | unknownKeys (names : List Text)
  | keyType (name : Text)
  | keyOrder (left right : Text)
  | dayAndTime
  | mixedPlaces
  deriving DecidableEq, Repr

def MappingError.message : MappingError → Text
  | unknownKeys names => "Unknown config keys: " ++ Text.intercalate ", " names
  | keyType name => "sequence item 0: expected str instance, " ++ name ++ " found"
  | keyOrder left right =>
    "'<' not supported between instances of '" ++ left ++ "' and '" ++ right ++ "'"
  | dayAndTime => "can't compare datetime.datetime to datetime.date"
  | mixedPlaces => "can't compare offset-naive and offset-aware datetimes"

def MappingError.isType : MappingError → Bool
  | unknownKeys _ => false
  | keyType _ | keyOrder _ _ | dayAndTime | mixedPlaces => true

def textOf? : Value → Option Text
  | .text t => some t
  | _ => none

def orderError? : Value → Value → Option MappingError
  | .text _, .text _ | .bytes _, .bytes _ => none
  | .date s, .date t =>
    if s.isComparable t then none
    else if s.time.isSome && t.time.isSome then some .mixedPlaces
    else some .dayAndTime
  | a, b => if a.isNumber && b.isNumber then none else some (.keyOrder b.typeName a.typeName)

def unknownKeys (m : Mapping) : List Value := (m.map (·.1)).filter fun k ↦ (Field.ofKey? k).isNone

def keyError (first : Value) (others : List Value) : MappingError :=
  match (first :: others).mapM textOf? with
  | some names => .unknownKeys (names.mergeSort Text.le)
  | none =>
    match others.findSome? (orderError? first) with
    | some e => e
    | none => .keyType (others.foldl (fun least k ↦ if k.isLess least then k else least) first).typeName

def overlay (m : Mapping) (c : Config) : Config :=
  m.foldl
    (fun c kv ↦
      match Field.ofKey? kv.1 with
      | some f => c.set f kv.2
      | none => c)
    c

def applyMapping (m : Mapping) (c : Config) : Except MappingError Config :=
  match unknownKeys m with
  | [] => .ok (c.overlay m)
  | first :: others => .error (keyError first others)

def assign (entry : Value × Value) : ExceptT MappingError (StateM Config) Unit :=
  match Field.ofKey? entry.1 with
  | some f => modify (set f entry.2)
  | none => pure ()

/-- Overlays settings in place. All keys are looked at before the first setting is changed. -/
def applyInPlace (m : Mapping) : ExceptT MappingError (StateM Config) Unit :=
  match unknownKeys m with
  | [] => m.forM assign
  | first :: others => throw (keyError first others)

/-- The settings as a log may show them: the secret is left out. -/
def display (c : Config) : Text :=
  let shown (f : Field) : Text := f.name ++ "=" ++ (c.get f).display
  "VaasConfig(" ++ Text.intercalate ", " ((Field.all.filter (· ≠ .clientSecret)).map shown) ++ ")"

end Config

end VerdictClient
