import DuplexStream.InvalidSetting

/-!
# Wires

A call speaks one of two schemas. Envelopes carry data or acknowledgements, frames carry data only.
-/

namespace DuplexStream

/-- The schema spoken on a call. -/
inductive Wire where
  | envelope
  | framed
  deriving DecidableEq

namespace Wire

/-- The name of a wire. -/
def name : Wire → String
  | envelope => "envelope"
  | framed => "framed"

/-- The wire with a name. -/
def ofName (s : String) : Except InvalidSetting Wire :=
  if s == "envelope" then .ok envelope
  else if s == "framed" then .ok framed
  else .error (.unknownWire s)

end Wire

end DuplexStream
