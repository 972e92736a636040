import VerdictClient.Config
import VerdictClient.Session

namespace VerdictClient.Session

def Settings.ofConfig (c : Config) : Settings Float where
  url := c.get .url
  timeout := .ofValue (c.get .timeout)
  keepAlive := c.get .keepAlive
  uploadTimeout := c.get .uploadTimeout
  useCache := c.get .useCache
  useHashLookup := c.get .useHashLookup

end VerdictClient.Session
