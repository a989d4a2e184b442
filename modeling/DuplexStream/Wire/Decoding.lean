import DuplexStream.Wire.Encoding

/-!
# Messages from bytes

The fields of a record are absorbed one after the other into a message that starts with all
defaults. A later value of a field replaces an earlier one; a later variant of an envelope replaces
another one, and is merged into one of the same kind. Unknown field numbers are passed over. A
known field with a value of the wrong layout makes the whole message unreadable.
-/

namespace DuplexStream

open Record

/-- How deep groups may nest in a message of its own. A message inside an envelope has one level
less. -/
def Record.nestingLimit : Nat := 100

/-- The number of a field. -/
def Record.Value.word? : Value → Option UInt64
  | .word v => some v
  | _ => none

/-- The bytes of a field. -/
def Record.Value.block? : Value → Option (List UInt8)
  | .block bytes => some bytes
  | _ => none

/-- The text of a field: bytes that are well-formed UTF-8. -/
def Record.Value.text? (v : Value) : Option String :=
  match v.block? with
  | some bytes => Text.Utf8.text? bytes
  | none => none

/-- A data message with one more field. -/
def Message.absorb (m : Message) (f : Field) : Option Message :=
  match f.number with
  | 1 => f.value.word?.map fun v => { m with id := v }
  | 2 => f.value.word?.map fun v => { m with timestamp := v }
  | 3 => f.value.block?.map fun bytes => { m with payload := bytes }
  | 4 => f.value.word?.map fun (v : UInt64) => { m with needsAck := v != 0 }
  | _ => some m

/-- An acknowledgement with one more field. -/
def Ack.absorb (a : Ack) (f : Field) : Option Ack :=
  match f.number with
  | 1 => f.value.word?.map fun v => { a with ackId := v }
  | 2 => f.value.word?.map fun v => { a with timestamp := v }
  | _ => some a

/-- A frame with one more field. -/
def Frame.absorb (m : Frame) (f : Field) : Option Frame :=
  match f.number with
  | 1 => f.value.word?.map fun v => { m with id := v }
  | 2 => f.value.word?.map fun v => { m with timestamp := v }
  | 3 => f.value.text?.map fun s => { m with payload := s }
  | _ => some m

/-- Absorbs the fields of a record into a message. -/
def Record.absorbAll {α : Type} (absorb : α → Field → Option α) : α → List Field → Option α
  | m, [] => some m
  | m, f :: fs =>
    match absorb m f with
    | some m' => absorbAll absorb m' fs
    | none => none

/-- Absorbs the bytes of a record into a message. -/
def Record.absorbBytes {α : Type} (absorb : α → Field → Option α) (depth : Nat) (m : α)
    (bs : List UInt8) : Option α :=
  match readFields depth bs with
  | some fs => absorbAll absorb m fs
  | none => none

/-- An envelope with one more field. -/
def Envelope.absorb (e : Envelope) (f : Field) : Option Envelope :=
  match f.number with
  | 1 =>
    match f.value.block? with
    | some bytes =>
      (absorbBytes Message.absorb (nestingLimit - 1) (e.data?.getD .default) bytes).map .data
    | none => none
  | 2 =>
    match f.value.block? with
    | some bytes =>
      (absorbBytes Ack.absorb (nestingLimit - 1) (e.ack?.getD .default) bytes).map .ack
    | none => none
  | _ => some e

/-- Reads a data message. -/
def Message.decode? (bs : List UInt8) : Option Message :=
  absorbBytes Message.absorb nestingLimit .default bs

/-- Reads an acknowledgement. -/
def Ack.decode? (bs : List UInt8) : Option Ack :=
  absorbBytes Ack.absorb nestingLimit .default bs

/-- Reads an envelope. -/
def Envelope.decode? (bs : List UInt8) : Option Envelope :=
  absorbBytes Envelope.absorb nestingLimit .empty bs

/-- Reads a frame. -/
def Frame.decode? (bs : List UInt8) : Option Frame :=
  absorbBytes Frame.absorb nestingLimit .default bs

end DuplexStream
