import DuplexStream.Client
import DuplexStream.Rehearsal.Session

/-!
# Rehearsing the client

The client on a scripted transport. The limit of the clock counts from its start.
-/

namespace DuplexStream

/-- What is rehearsed. -/
structure ClientRehearsal where
  settings : Settings
  scripts : List CallScript
  around : Surroundings
  limit : Nat

namespace ClientRehearsal

/-- Rehearses the client. -/
def run (r : ClientRehearsal) : ClientRun (ScriptedTransport Session) :=
  Client.run r.settings
    (.plain ScriptedTransport.target r.around.shutDown r.around.shutdownAt r.limit)
    (AttemptSource.scripted r.settings.session r.around r.limit)
    (.ofScripts r.scripts)

end ClientRehearsal

end DuplexStream
