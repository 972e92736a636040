import VerdictClient.Text.Utf8
import VerdictClient.Value
import VerdictClient.Message

namespace VerdictClient

inductive FieldFault where
  | missing
  | stringType
  | boolType
  | boolParsing
  | enumeration
  | literal
  | unicode
  deriving DecidableEq, Repr

structure FieldError where
  field : Text
  fault : FieldFault
  deriving DecidableEq, Repr

abbrev Fields := List (Text × Value)

namespace Field

def lookup (name : Text) (fs : Fields) : Option Value := (fs.find? (·.1 = name)).map (·.2)

def text : Value → Except FieldFault Text
  | .text t => .ok t
  | .bytes bs => (Utf8.decode false bs).mapError fun _ ↦ .unicode
  | _ => .error .stringType

def truths : List Text := ["1", "t", "y", "true", "yes", "on"]

def falsehoods : List Text := ["0", "f", "n", "false", "no", "off"]

def wordBound : Int := 0x8000000000000000

/-- Zero and one are truth values; a number of more than sixty-four bits is none from the start. -/
def boolOfInt (n : Int) : Except FieldFault Bool :=
  if n = 0 then .ok false
  else if n = 1 then .ok true
  else if -wordBound ≤ n ∧ n < wordBound then .error .boolParsing
  else .error .boolType

/-- Doubles that are whole numbers within the same bounds count as those. -/
def boolOfFloat (x : Float) : Except FieldFault Bool :=
  match Value.wholeNumber? x with
  | some n => if -wordBound < n ∧ n < wordBound then boolOfInt n else .error .boolType
  | none => .error .boolType

def boolOfWord (t : Text) : Except FieldFault Bool :=
  if truths.contains t.lower then .ok true
  else if falsehoods.contains t.lower then .ok false
  else .error .boolParsing

/-- A switch: a truth value, the numbers zero and one, or one of the words for them. -/
def bool : Value → Except FieldFault Bool
  | .bool b => .ok b
  | .int n => boolOfInt n
  | .float x => boolOfFloat x
  | .text t => if t.all (·.isChar) then boolOfWord t else .error .unicode
  | .bytes bs =>
    match Utf8.decode false bs with
    | .ok t => boolOfWord t
    | .error _ => .error .boolParsing
  | _ => .error .boolType

def verdict : Value → Except FieldFault Verdict
  | .text t => match Verdict.ofName? t with
    | some v => .ok v
    | none => .error (if t.all (·.isChar) then .enumeration else .unicode)
  | _ => .error .enumeration

def literal (expected : Text) : Value → Except FieldFault Unit
  | .text t =>
    if t = expected then .ok ()
    else .error (if t.all (·.isChar) then .literal else .unicode)
  | _ => .error .literal

variable {α : Type}

def required (name : Text) (check : Value → Except FieldFault α) (fs : Fields) : Except FieldError α :=
  match lookup name fs with
  | none => .error ⟨name, .missing⟩
  | some v => (check v).mapError (⟨name, ·⟩)

def withDefault (name : Text) (default : α) (check : Value → Except FieldFault α) (fs : Fields) :
    Except FieldError α :=
  match lookup name fs with
  | none => .ok default
  | some v => (check v).mapError (⟨name, ·⟩)

def optional (name : Text) (check : Value → Except FieldFault α) (fs : Fields) :
    Except FieldError (Option α) :=
  match lookup name fs with
  | none | some .null => .ok none
  | some v => ((check v).map some).mapError (⟨name, ·⟩)

def fault? : Except FieldError α → Option FieldError
  | .ok _ => none
  | .error e => some e

end Field

def kindField (expected : Text) (fs : Fields) : Except FieldError Unit :=
  Field.withDefault "kind" () (Field.literal expected) fs

def AuthResponse.ofFields (fs : Fields) : Except (List FieldError) AuthResponse :=
  match kindField authResponseKind fs, Field.withDefault "success" false Field.bool fs,
    Field.optional "session_id" Field.text fs, Field.optional "text" Field.text fs with
  | .ok _, .ok success, .ok sessionId, .ok text => .ok ⟨success, sessionId, text⟩
  | kind, success, sessionId, text => .error <| [Field.fault? kind, Field.fault? success,
      Field.fault? sessionId, Field.fault? text].filterMap id

def VerdictResponse.ofFields (fs : Fields) : Except (List FieldError) VerdictResponse :=
  match kindField verdictResponseKind fs, Field.required "guid" Field.text fs,
    Field.required "verdict" Field.verdict fs, Field.withDefault "sha256" [] Field.text fs,
    Field.optional "detection" Field.text fs, Field.optional "url" Field.text fs,
    Field.optional "upload_token" Field.text fs with
  | .ok _, .ok guid, .ok verdict, .ok sha256, .ok detection, .ok url, .ok token =>
    .ok ⟨guid, verdict, sha256, detection, url, token⟩
  | kind, guid, verdict, sha256, detection, url, token => .error <| [Field.fault? kind,
      Field.fault? guid, Field.fault? verdict, Field.fault? sha256, Field.fault? detection,
      Field.fault? url, Field.fault? token].filterMap id

def authOfFields (fs : Fields) : Except (List FieldError) Outbound :=
  match kindField OutboundKind.auth.name fs, Field.required "token" Field.text fs with
  | .ok _, .ok token => .ok (.auth token)
  | kind, token => .error <| [Field.fault? kind, Field.fault? token].filterMap id

def OutboundKind.subjectField (k : OutboundKind) (fs : Fields) : Except FieldError Subject :=
  match k with
  | hash => (Field.required "sha256" Field.text fs).map .hash
  | url => (Field.required "url" Field.text fs).map .url
  | _ => .ok .stream

def VerdictRequest.ofFields (k : OutboundKind) (fs : Fields) :
    Except (List FieldError) VerdictRequest :=
  match kindField k.name fs, Field.required "session_id" Field.text fs, k.subjectField fs,
    Field.required "guid" Field.text fs, Field.optional "use_cache" Field.bool fs,
    Field.optional "use_hash_lookup" Field.bool fs with
  | .ok _, .ok sessionId, .ok subject, .ok guid, .ok useCache, .ok useHashLookup =>
    .ok ⟨sessionId, subject, guid, useCache, useHashLookup⟩
  | kind, sessionId, subject, guid, useCache, useHashLookup => .error <| [Field.fault? kind,
      Field.fault? sessionId, Field.fault? subject, Field.fault? guid, Field.fault? useCache,
      Field.fault? useHashLookup].filterMap id

def Outbound.ofFields (k : OutboundKind) (fs : Fields) : Except (List FieldError) Outbound :=
  match k with
  | .auth => authOfFields fs
  | k => (VerdictRequest.ofFields k fs).map .verdict

def validationText (name : Text) (count : Nat) : Text :=
  Text.ofNat count ++ (if count = 1 then " validation error for " else " validation errors for " : Text) ++
    name

end VerdictClient
