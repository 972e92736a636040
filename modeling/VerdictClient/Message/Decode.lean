import VerdictClient.Json
import VerdictClient.Message.Field

namespace VerdictClient

inductive DecodeCause where
  | encoding (e : Encoding.DecodeError)
  | json (t : Text) (e : Json.Error)
  | notObject
  | otherKind (shown : Text)
  | fields (faults : List FieldError)
  deriving DecidableEq

def DecodeCause.message : DecodeCause → Text
  | encoding e => "Invalid JSON frame: " ++ e.message
  | json t e => "Invalid JSON frame: " ++ e.message t
  | notObject => "Auth response must be a JSON object"
  | otherKind shown => "Expected AuthResponse, got " ++ shown
  | fields faults => "Invalid AuthResponse: " ++ validationText authResponseKind faults.length

inductive HandshakeError where
  | undecodable (c : DecodeCause)
  | tooDeep (opened : Json.Container)
  deriving DecidableEq

def HandshakeError.ofJson : Json.Lenient.Error → HandshakeError
  | .encoding e => undecodable (.encoding e)
  | .json _ (.tooDeep c) => tooDeep c
  | .json t e => undecodable (.json t e)

def Fields.ofEntries (es : List (Value × Value)) : Fields :=
  es.filterMap fun
    | (.text k, v) => some (k, v)
    | _ => none

def AuthResponse.ofValue (v : Value) : Except DecodeCause AuthResponse :=
  match v with
  | .map es =>
    let fs := Fields.ofEntries es
    match (Field.lookup "kind" fs).getD (.text authResponseKind) with
    | .text t =>
      if t = authResponseKind then (AuthResponse.ofFields fs).mapError .fields
      else .error (.otherKind t.quoted)
    | other => .error (.otherKind other.display)
  | _ => .error .notObject

def readLenient : Frame → Except Json.Lenient.Error Value
  | .text t => Json.Lenient.ofText t
  | .binary bs => Json.Lenient.ofBytes bs

def AuthResponse.decode (f : Frame) : Except HandshakeError AuthResponse :=
  match readLenient f with
  | .ok v => (AuthResponse.ofValue v).mapError .undecodable
  | .error e => .error (.ofJson e)

inductive FrameError where
  | loneHalf
  | notJson
  | notObject
  | noKind
  | unknownKind
  | fields (kind : Text) (faults : List FieldError)
  deriving DecidableEq, Repr

def FrameError.count : FrameError → Nat
  | fields _ faults => faults.length
  | _ => 1

def FrameError.message (e : FrameError) : Text :=
  "Invalid frame: " ++ validationText "tagged-union[AuthResponse,VerdictResponse]" e.count

def Inbound.ofValue (v : Value) : Except FrameError Inbound :=
  match v with
  | .map es =>
    let fs := Fields.ofEntries es
    match Field.lookup "kind" fs with
    | none => .error .noKind
    | some (.text k) =>
      if k = authResponseKind then ((AuthResponse.ofFields fs).map auth).mapError (.fields k)
      else if k = verdictResponseKind then
        ((VerdictResponse.ofFields fs).map verdict).mapError (.fields k)
      else .error .unknownKind
    | some _ => .error .unknownKind
  | _ => .error .notObject

def readStrict : Frame → Option Value
  | .text t => Json.Strict.ofText t
  | .binary bs => Json.Strict.ofBytes bs

def Frame.hasLoneHalf : Frame → Bool
  | .text t => t.any fun c ↦ !c.isChar
  | .binary _ => false

def Inbound.decode (f : Frame) : Except FrameError Inbound :=
  if f.hasLoneHalf then .error .loneHalf
  else
    match readStrict f with
    | none => .error .notJson
    | some v => Inbound.ofValue v

end VerdictClient
