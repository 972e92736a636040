import VerdictClient.Receiver
import VerdictClient.Token
import VerdictClient.Transport
import VerdictClient.Upload

namespace VerdictClient

structure Classification where
  sha256 : Text
  verdict : Verdict
  detection : Option Text
  deriving DecidableEq, Repr

def Classification.ofResponse (r : VerdictResponse) : Classification :=
  ⟨r.sha256, r.verdict, r.detection⟩

namespace Session

structure Settings (τ : Type) where
  url : Value
  timeout : Timeout τ
  keepAlive : Value
  uploadTimeout : Value
  useCache : Value
  useHashLookup : Value

inductive Query where
  | hash (digest : Value)
  | url (address : Value)
  | file (path : Text)
  | buffer (content : Bytes)
  | stream (content : Bytes) (length : Option Value)

structure Ask (τ : Type) where
  query : Query
  guid : Value
  timeout : Option (Timeout τ)

structure Job (τ : Type) where
  request : VerdictRequest
  content : Option (Upload.Content × Option Value)
  timeout : Timeout τ

/-- Whether a caller waits for the first response or, after an upload, for a final one. -/
inductive Stage where
  | first
  | final
  deriving DecidableEq, Repr

/-- What a caller does next. -/
inductive Phase (τ : Type) where
  | connect (token : Value)
  | opening (token : Value)
  /-- To make the open connection that of the session. -/
  | install (token : Value)
  | announce (token : Value)
  | greet (token : Value) (waiter : Nat)
  | awaitAuth (waiter : Nat) (wake : Option τ)
  | giveUp (waiter : Nat)
  | enter (r : AuthResponse)
  | leave (e : Error)
  | ask (a : Ask τ)
  | check (j : Job τ)
  | register (j : Job τ)
  | send (j : Job τ) (ticket : Nat)
  | await (j : Job τ) (stage : Stage) (ticket : Nat) (wake : τ)
  /-- To forget the ticket, its time being over. -/
  | expire (j : Job τ) (stage : Stage) (ticket : Nat)
  /-- To register for a final verdict, before the upload. -/
  | registerFinal (j : Job τ) (target : Upload.Target) (content : Upload.Content) (length : Option Value)
  | upload (j : Job τ) (ticket : Nat) (target : Upload.Target) (content : Upload.Content)
      (length : Option Value)
  | uploading (j : Job τ) (ticket : Nat) (target : Upload.Target) (content : Upload.Content)
  | restart (j : Job τ) (ticket : Nat)
  /-- To discard what is registered under a guid and report an error. -/
  | abandon (guid : Text) (e : Error)
  | close
  | failAll (wasClosed hasTransport : Bool)
  | disconnect (wasClosed hasTransport : Bool)
  | join (wasClosed : Bool)
  | ended (result : Except Error (Option Classification))

inductive Reader where
  | idle
  | reading
  | failWaiter (e : Error)
  | failRequests (cause : ClosedCause)
  | report (cause : ClosedCause)
  | ended
  deriving DecidableEq

def Reader.isAlive : Reader → Bool
  | idle | ended => false
  | _ => true

end Session

open Session in
structure Session (τ : Type) where
  settings : Settings τ
  state : SessionState
  sessionId : Option Text
  connection : Option Transport
  installed : Bool
  receiver : Receiver τ
  reader : Reader
  callers : List (Phase τ)
  now : τ
  files : FileSystem
  /-- How many guids have been generated. -/
  guids : Nat
  openings : List Opening
  /-- The uploads put on the way, each with the number of its caller. -/
  puts : List (Nat × Upload.Put)
  log : List LogLine

namespace Session

variable {τ : Type}

def start [Clock τ] (settings : Settings τ) (files : FileSystem) : Session τ where
  settings := settings
  state := .disconnected
  sessionId := none
  connection := none
  installed := false
  receiver := .empty
  reader := .idle
  callers := []
  now := Clock.zero
  files := files
  guids := 0
  openings := []
  puts := []
  log := []

def transport? (s : Session τ) : Option Transport := if s.installed then s.connection else none

def correlator (s : Session τ) : Correlator τ := s.receiver.correlator

def logged (level : Level) (text : Text) (s : Session τ) : Session τ :=
  { s with log := s.log ++ [⟨level, .session, text⟩] }

def withReceiver (r : Receiver τ) (s : Session τ) : Session τ :=
  { s with receiver := { r with log := [] }, log := s.log ++ r.log }

def withCorrelator (c : Correlator τ) (s : Session τ) : Session τ :=
  { s with receiver := { s.receiver with correlator := c } }

def write (frame : Text) (outcome : Option Failure) (s : Session τ) : Except Error Unit × Session τ :=
  match s.connection with
  | none => (.error (.closed .unnamed), s)
  | some t => ((t.send frame outcome).1, { s with connection := some (t.send frame outcome).2 })

def closeConnection (s : Session τ) : Session τ :=
  { s with connection := s.connection.map Transport.close }

def shownUrl (s : Session τ) : Text := s.settings.url.plain

end Session

end VerdictClient
