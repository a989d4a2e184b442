import DuplexStream.Wire

/-!
# Modes of the client

The client runs a single session with a timer, or sessions with retries, with or without
acknowledgements. Acknowledgements have no frame, so only the mode that sends them prefers the
envelope wire.
-/

namespace DuplexStream

/-- What the client does. -/
inductive Mode where
  | autoCancel
  | simple
  | reliable
  deriving DecidableEq

namespace Mode

/-- The name of a mode. -/
def name : Mode → String
  | autoCancel => "auto_cancel"
  | simple => "simple"
  | reliable => "reliable"

/-- The mode with a name. -/
def ofName? (s : String) : Option Mode :=
  [autoCancel, simple, reliable].find? fun m => m.name == s

/-- The complaint about a name that no mode has. -/
def unknownMessage (s : String) : String :=
  "unknown mode '" ++ s ++ "', expected auto_cancel, simple or reliable"

/-- The wire of a mode unless one is chosen. -/
def preferredWire : Mode → Wire
  | autoCancel => .framed
  | simple => .framed
  | reliable => .envelope

end Mode

end DuplexStream
