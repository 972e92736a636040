import VerdictClient.Text

namespace VerdictClient

inductive Failure where
  | closedAbnormally
  | closedByPeer
  | closedLocally
  | invalidUri (uri reason : Text)
  | invalidHandshake (text : Text)
  | system (text : Text)
  | systemTimeout (text : Text)
  | httpConnection (text : Text)
  | httpTimeout (text : Text)
  | http (text : Text)
  | value (text : Text)
  | runtime (text : Text)
  | closed (text : Text)
  deriving DecidableEq, Repr

namespace Failure

def text : Failure → Text
  | closedAbnormally => "no close frame received or sent"
  | closedByPeer => "received 1000 (OK); then sent 1000 (OK)"
  | closedLocally => "sent 1000 (OK); then received 1000 (OK)"
  | invalidUri uri reason => uri ++ " isn't a valid URI: " ++ reason
  | invalidHandshake t | system t | systemTimeout t | httpConnection t | httpTimeout t | http t
  | value t | runtime t | closed t => t

def isClosure : Failure → Bool
  | closedAbnormally | closedByPeer | closedLocally => true
  | _ => false

def isHttp : Failure → Bool
  | httpConnection _ | httpTimeout _ | http _ => true
  | _ => false

/-- A failure of the system below; those of the web client are such. -/
def isSystem : Failure → Bool
  | system _ | systemTimeout _ => true
  | f => f.isHttp

def refusesOpening : Failure → Bool
  | invalidUri _ _ | invalidHandshake _ => true
  | f => f.isSystem

def endsConnection (f : Failure) : Bool := f.isClosure || f.isSystem

end Failure

end VerdictClient
