import DuplexStream.Wire.Message
import DuplexStream.Status

/-!
# Envelopes over the framed wire

The framed wire carries data only. Going out, an envelope without data has no frame and is left
out. Coming in, every frame becomes a data envelope at its own position and a status stays what
it is.
-/

namespace DuplexStream

/-- The frames of outgoing envelopes. -/
def Frame.ofEnvelopes (envelopes : List Envelope) : List Frame :=
  envelopes.filterMap fun e => e.data?.map Frame.ofData

/-- The envelope of one incoming item. -/
def Envelope.ofFrameItem : Except Status Frame → Except Status Envelope
  | .ok f => .ok (.data (.ofFrame f))
  | .error s => .error s

/-- The envelopes of incoming frames. -/
def Envelope.ofFrameItems (items : List (Except Status Frame)) : List (Except Status Envelope) :=
  items.map Envelope.ofFrameItem

end DuplexStream
