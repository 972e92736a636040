import VerdictClient.Failure
import VerdictClient.Files
import VerdictClient.Message.Decode
import VerdictClient.Message.Encode

namespace VerdictClient

inductive SessionState where
  | disconnected
  | connecting
  | authenticated
  | failed
  | closed
  deriving DecidableEq, Repr

def SessionState.name : SessionState → Text
  | disconnected => "disconnected"
  | connecting => "connecting"
  | authenticated => "authenticated"
  | failed => "failed"
  | closed => "closed"

inductive AuthenticationCause where
  | rejected (text : Option Text)
  | undecodable (c : DecodeCause)
  | tokenRequest (url text : Text)
  | tokenRefused (status : Int) (body : Text)
  | noToken
  deriving DecidableEq

inductive StateCause where
  | connectAgain (s : SessionState)
  | notConnected
  | connectNotCompleted
  | authenticationFailed
  | noSessionId
  | alreadyPending (guid : Text)
  deriving DecidableEq, Repr

inductive ClosedCause where
  | unnamed
  | sessionClosed
  | duringConnect
  | notOpened (url text : Text)
  | reported (text : Text)
  | loopFailed (text : Text)
  | discarded (guid : Text)
  deriving DecidableEq, Repr

inductive UploadCause where
  | failed (url text : Text)
  | refused (url : Text) (status : Int) (body : Text)
  | noTarget (guid : Text)
  deriving DecidableEq, Repr

inductive TimeoutCause where
  | noResponse (guid : Text)
  | noAuthentication
  deriving DecidableEq, Repr

inductive Error where
  | authentication (c : AuthenticationCause)
  | state (c : StateCause)
  | closed (c : ClosedCause)
  | upload (c : UploadCause)
  | timedOut (c : TimeoutCause)
  | invalidDigest (t : Text)
  | invalidFields (model : Text) (faults : List FieldError)
  | unencodable (e : Utf8.EncodeError)
  | file (e : FileError)
  | tooDeep (opened : Json.Container)
  | digestType (name : Text)
  | timeoutType (name : Text)
  | timeoutOrder (name : Text)
  /-- A timeout that no double comes near. -/
  | timeoutSize
  /-- A timeout longer than anyone can be made to wait. -/
  | timeoutRange (isWhole : Bool)
  /-- A failure of a collaborator that the client does not interpret. -/
  | passed (f : Failure)
  deriving DecidableEq

def AuthenticationCause.message : AuthenticationCause → Text
  | rejected text => text.getD "Authentication failed"
  | undecodable c => c.message
  | tokenRequest url text => "Token request to " ++ url ++ " failed: " ++ text
  | tokenRefused status body => "Token endpoint answered " ++ Text.ofInt status ++ ": " ++ body
  | noToken => "Token endpoint response has no access_token"

def StateCause.message : StateCause → Text
  | connectAgain s => "connect() called on a " ++ s.name ++ " session"
  | notConnected => "Not connected"
  | connectNotCompleted => "connect() was not completed"
  | authenticationFailed => "Authentication failed"
  | noSessionId => "Session has no session id"
  | alreadyPending guid => "Request " ++ guid ++ " is already pending"

def ClosedCause.message : ClosedCause → Text
  | unnamed => "connection closed"
  | sessionClosed => "Session closed"
  | duringConnect => "Session closed during connect"
  | notOpened url text => "Cannot connect to " ++ url ++ ": " ++ text
  | reported text => text
  | loopFailed text => "receive loop failed: " ++ text
  | discarded guid => "Request " ++ guid ++ " was discarded"

def UploadCause.message : UploadCause → Text
  | failed url text => "Upload to " ++ url ++ " failed: " ++ text
  | refused url status body =>
    "Upload to " ++ url ++ " failed with status " ++ Text.ofInt status ++ ": " ++ body
  | noTarget guid => "Unknown verdict for " ++ guid ++ " has no upload url or token"

def TimeoutCause.message : TimeoutCause → Text
  | noResponse guid => "No response for request " ++ guid ++ " before the deadline"
  | noAuthentication => "No authentication response before the deadline"

def Error.message : Error → Text
  | authentication c => c.message
  | state c => c.message
  | closed c => c.message
  | upload c => c.message
  | timedOut c => c.message
  | invalidDigest t => "Invalid SHA-256 digest: " ++ t.quoted
  | invalidFields model faults => validationText model faults.length
  | unencodable e => "Error serializing to JSON: UnicodeEncodeError: " ++ e.message
  | file e => e.message
  | tooDeep opened => Json.Error.message [] (.tooDeep opened)
  | digestType name => "expected string or bytes-like object, got '" ++ name ++ "'"
  | timeoutType name => "unsupported operand type(s) for +: 'float' and '" ++ name ++ "'"
  | timeoutOrder name => "'>' not supported between instances of '" ++ name ++ "' and 'int'"
  | timeoutSize => "int too large to convert to float"
  | timeoutRange true => "timestamp too large to convert to C _PyTime_t"
  | timeoutRange false => "timestamp out of range for platform time_t"
  | passed f => f.text

/-- A failure that no rule of the client interprets; one that a connection reports in the client's
own terms is the client's own. -/
def Error.ofFailure : Failure → Error
  | .closed text => closed (.reported text)
  | f => passed f

end VerdictClient
