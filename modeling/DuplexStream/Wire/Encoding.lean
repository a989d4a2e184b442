import DuplexStream.Wire.Message
import DuplexStream.Wire.Record

/-!
# Messages as bytes

A message is written as a record: its fields in the order of their numbers, leaving out every
field that has its default. The variant of an envelope is always written, so that an envelope
around a default message differs from the empty one.
-/

namespace DuplexStream

open Record

/-- A number, unless it is zero. -/
def Record.wordField (number : Nat) (v : UInt64) : List Field :=
  if v = 0 then [] else [⟨number, .word v⟩]

/-- A block of bytes, unless it is empty. -/
def Record.blockField (number : Nat) (bytes : List UInt8) : List Field :=
  if bytes.isEmpty then [] else [⟨number, .block bytes⟩]

/-- A flag, unless it is false. -/
def Record.flagField (number : Nat) (flag : Bool) : List Field :=
  if flag then [⟨number, .word 1⟩] else []

/-- The fields of a data message. -/
def Message.fields (m : Message) : List Field :=
  wordField 1 m.id ++ wordField 2 m.timestamp ++ blockField 3 m.payload ++ flagField 4 m.needsAck

/-- The bytes of a data message. -/
def Message.encode (m : Message) : List UInt8 :=
  encodeFields m.fields

/-- The fields of an acknowledgement. -/
def Ack.fields (a : Ack) : List Field :=
  wordField 1 a.ackId ++ wordField 2 a.timestamp

/-- The bytes of an acknowledgement. -/
def Ack.encode (a : Ack) : List UInt8 :=
  encodeFields a.fields

/-- The fields of an envelope. -/
def Envelope.fields : Envelope → List Field
  | .empty => []
  | .data m => [⟨1, .block m.encode⟩]
  | .ack a => [⟨2, .block a.encode⟩]

/-- The bytes of an envelope. -/
def Envelope.encode (e : Envelope) : List UInt8 :=
  encodeFields e.fields

/-- The fields of a frame. -/
def Frame.fields (f : Frame) : List Field :=
  wordField 1 f.id ++ wordField 2 f.timestamp ++ blockField 3 (Text.Utf8.bytesOf f.payload)

/-- The bytes of a frame. -/
def Frame.encode (f : Frame) : List UInt8 :=
  encodeFields f.fields

end DuplexStream
