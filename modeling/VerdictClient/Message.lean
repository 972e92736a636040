import VerdictClient.Text

namespace VerdictClient

inductive Frame where
  | text (t : Text)
  | binary (bs : Bytes)
  deriving DecidableEq, Repr

inductive Verdict where
  | clean
  | malicious
  | pup
  | unknown
  deriving DecidableEq, Repr

def Verdict.name : Verdict → Text
  | clean => "Clean"
  | malicious => "Malicious"
  | pup => "Pup"
  | unknown => "Unknown"

def Verdict.all : List Verdict := [clean, malicious, pup, unknown]

def Verdict.ofName? (t : Text) : Option Verdict := all.find? (·.name = t)

structure AuthResponse where
  success : Bool
  sessionId : Option Text
  text : Option Text
  deriving DecidableEq, Repr

structure VerdictResponse where
  guid : Text
  verdict : Verdict
  sha256 : Text
  detection : Option Text
  url : Option Text
  uploadToken : Option Text
  deriving DecidableEq, Repr

/-- The address and the token of an upload that the service asks for; neither may be empty. -/
def VerdictResponse.uploadTarget? (r : VerdictResponse) : Option (Text × Text) :=
  match r.url, r.uploadToken with
  | some url, some token => if url.isEmpty || token.isEmpty then none else some (url, token)
  | _, _ => none

def VerdictResponse.hasUploadTarget (r : VerdictResponse) : Bool := r.uploadTarget?.isSome

inductive Inbound where
  | auth (r : AuthResponse)
  | verdict (r : VerdictResponse)
  deriving DecidableEq, Repr

inductive Subject where
  | hash (sha256 : Text)
  | url (url : Text)
  | stream
  deriving DecidableEq, Repr

structure VerdictRequest where
  sessionId : Text
  subject : Subject
  guid : Text
  useCache : Option Bool
  useHashLookup : Option Bool
  deriving DecidableEq, Repr

inductive Outbound where
  | auth (token : Text)
  | verdict (r : VerdictRequest)
  deriving DecidableEq, Repr

def authResponseKind : Text := "AuthResponse"

def verdictResponseKind : Text := "VerdictResponse"

inductive OutboundKind where
  | auth
  | hash
  | url
  | stream
  deriving DecidableEq, Repr

def OutboundKind.name : OutboundKind → Text
  | auth => "AuthRequest"
  | hash => "VerdictRequest"
  | url => "VerdictRequestForUrl"
  | stream => "VerdictRequestForStream"

def OutboundKind.ofName? (t : Text) : Option OutboundKind :=
  [auth, hash, url, stream].find? (·.name = t)

def Subject.kind : Subject → OutboundKind
  | .hash _ => .hash
  | .url _ => .url
  | .stream => .stream

def Outbound.kind : Outbound → OutboundKind
  | .auth _ => .auth
  | .verdict r => r.subject.kind

end VerdictClient
