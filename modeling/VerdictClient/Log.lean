import VerdictClient.Text

namespace VerdictClient

inductive Level where
  | debug
  | info
  | warning
  | error
  deriving DecidableEq, Repr

inductive Source where
  | session
  | receiver
  | correlator
  | transport
  | upload
  | token
  deriving DecidableEq, Repr

structure LogLine where
  level : Level
  source : Source
  text : Text
  deriving DecidableEq, Repr

def Level.name : Level → Text
  | debug => "DEBUG"
  | info => "INFO"
  | warning => "WARNING"
  | error => "ERROR"

def Source.name : Source → Text
  | session => "vaas.session.manager"
  | receiver => "vaas.session.receiver"
  | correlator => "vaas.session.correlator"
  | transport => "vaas.transport.websocket"
  | upload => "vaas.upload"
  | token => "vaas.auth"

end VerdictClient
