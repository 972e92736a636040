import VerdictClient.Http

namespace VerdictClient.Upload

inductive Content where
  | path (p : Text)
  | bytes (bs : Bytes)
  | stream (bs : Bytes)
  deriving DecidableEq, Repr

structure Target where
  url : Text
  token : Text
  deriving DecidableEq, Repr

structure Options where
  timeout : Value
  contentLength : Option Value

structure Put where
  target : Target
  options : Options
  streamed : Bool
  body : Bytes

def Put.headers (p : Put) : List (Text × Text) :=
  let length : List (Text × Text) :=
    (p.options.contentLength.map fun n ↦ (("Content-Length" : Text), n.plain)).toList
  ("Authorization", p.target.token) :: length

def Content.describe : Content → Text
  | path p => p
  | bytes bs => Text.ofNat bs.length ++ " bytes"
  | stream _ => "stream"

/-- Puts a request on the way, unless its content is a file that cannot be read. -/
def start (fs : FileSystem) (target : Target) (options : Options) : Content → Except Error Put
  | .path p =>
    match fs.read p with
    | .ok content => .ok ⟨target, options, true, content⟩
    | .error e => .error (if e.isSystem then .upload (.failed target.url e.message) else .file e)
  | .bytes bs => .ok ⟨target, options, false, bs⟩
  | .stream bs => .ok ⟨target, options, true, bs⟩

def finish (target : Target) (content : Content) : Http.Outcome → Except Error LogLine
  | .ok r =>
    if 200 ≤ r.status ∧ r.status < 300 then
      .ok ⟨.info, .upload, "Uploaded " ++ content.describe ++ " to " ++ target.url⟩
    else .error (.upload (.refused target.url r.status r.excerpt))
  | .error f =>
    if f.isSystem then .error (.upload (.failed target.url f.text)) else .error (.ofFailure f)

end VerdictClient.Upload
