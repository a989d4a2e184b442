import DuplexStream.Text.Utf8

/-!
# Messages

Two schemas are spoken. On the envelope wire every message is an `Envelope`, which holds a data
message, an acknowledgement or neither. On the framed wire every message is a `Frame`: data whose
payload is text and which cannot ask for an acknowledgement.

A frame becomes a data message without loss. The other way the payload is read as text, so bytes
that are not well-formed are replaced.
-/

namespace DuplexStream

/-- A message with a payload. -/
structure Message where
  id : UInt64
  timestamp : UInt64
  payload : List UInt8
  needsAck : Bool
  deriving DecidableEq

/-- The acknowledgement of one data message. -/
structure Ack where
  ackId : UInt64
  timestamp : UInt64
  deriving DecidableEq

/-- What travels on the envelope wire. -/
inductive Envelope where
  | empty
  | data (message : Message)
  | ack (message : Ack)
  deriving DecidableEq

/-- What travels on the framed wire. -/
structure Frame where
  id : UInt64
  timestamp : UInt64
  payload : String
  deriving DecidableEq

/-- The data message in which every field has its default. -/
def Message.default : Message := ⟨0, 0, [], false⟩

/-- The acknowledgement in which every field has its default. -/
def Ack.default : Ack := ⟨0, 0⟩

/-- The frame in which every field has its default. -/
def Frame.default : Frame := ⟨0, 0, ""⟩

/-- The data message of an envelope. -/
def Envelope.data? : Envelope → Option Message
  | .data m => some m
  | _ => none

/-- The acknowledgement of an envelope. -/
def Envelope.ack? : Envelope → Option Ack
  | .ack a => some a
  | _ => none

/-- A frame as a data message. It asks for no acknowledgement. -/
def Message.ofFrame (f : Frame) : Message :=
  ⟨f.id, f.timestamp, Text.Utf8.bytesOf f.payload, false⟩

/-- The payload of a data message as text. -/
def Message.text (m : Message) : String :=
  Text.Utf8.textLossy m.payload

/-- A data message as a frame. -/
def Frame.ofData (m : Message) : Frame :=
  ⟨m.id, m.timestamp, m.text⟩

end DuplexStream
