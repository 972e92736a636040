import VerdictClient.Json
import VerdictClient.Message
import VerdictClient.Text.Utf8

namespace VerdictClient

/-- The members of a message in declared order; `none` for a member that is absent. -/
abbrev Members := List (Text × Option Value)

def Members.given (ms : Members) : List (Text × Value) :=
  ms.filterMap fun m ↦ m.2.map (m.1, ·)

def writeScalar : Value → Text
  | .text t => Json.quote t
  | .bool true => "true"
  | .bool false => "false"
  | v => v.display

def Members.write (ms : Members) : Text :=
  Json.writeObject (ms.given.map fun m ↦ (m.1, writeScalar m.2))

def Subject.members : Subject → Members
  | .hash sha256 => [("sha256", some (.text sha256))]
  | .url address => [("url", some (.text address))]
  | .stream => []

def VerdictRequest.members (r : VerdictRequest) : Members :=
  let after : Members :=
    [("guid", some (.text r.guid)), ("use_cache", r.useCache.map .bool),
      ("use_hash_lookup", r.useHashLookup.map .bool)]
  ("kind", some (.text r.subject.kind.name)) :: ("session_id", some (.text r.sessionId)) ::
    (r.subject.members ++ after)

def Outbound.members : Outbound → Members
  | .auth token =>
    [("kind", some (.text OutboundKind.auth.name)), ("token", some (.text token))]
  | .verdict r => r.members

def AuthResponse.members (r : AuthResponse) : Members :=
  [("kind", some (.text authResponseKind)), ("success", some (.bool r.success)),
    ("session_id", r.sessionId.map .text), ("text", r.text.map .text)]

def VerdictResponse.members (r : VerdictResponse) : Members :=
  [("kind", some (.text verdictResponseKind)), ("guid", some (.text r.guid)),
    ("verdict", some (.text r.verdict.name)), ("sha256", some (.text r.sha256)),
    ("detection", r.detection.map .text), ("url", r.url.map .text),
    ("upload_token", r.uploadToken.map .text)]

def Inbound.members : Inbound → Members
  | auth r => r.members
  | verdict r => r.members

def encodeError? : Value → Option Utf8.EncodeError
  | .text t => Utf8.EncodeError.find? (!·.isChar) t
  | _ => none

def Members.encode (ms : Members) : Except Utf8.EncodeError Text :=
  match ms.given.findSome? fun m ↦ encodeError? m.2 with
  | some e => .error e
  | none => .ok ms.write

def Outbound.encode (o : Outbound) : Except Utf8.EncodeError Text := o.members.encode

end VerdictClient
