/-!
# States of the controller

What the retry controller is doing. `done` and `failed` end a run.
-/

namespace DuplexStream

/-- What the retry controller is doing. -/
inductive Phase where
  | idle
  | connecting
  | streaming
  | backoff
  | cooldown
  | done
  | failed
  deriving DecidableEq

/-- The name of a state. -/
def Phase.name : Phase → String
  | .idle => "idle"
  | .connecting => "connecting"
  | .streaming => "streaming"
  | .backoff => "backoff"
  | .cooldown => "cooldown"
  | .done => "done"
  | .failed => "failed"

end DuplexStream
