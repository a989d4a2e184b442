import DuplexStream.Duration
import DuplexStream.Status
import DuplexStream.Wire.Message

/-!
# Scripted peers

A `CallScript` says what happens to one call: it is refused, rejected, or becomes a stream that
sends envelopes with waits between them and then ends. An `Inbound` is a stream being played. A wait
starts when the stream is asked for its next item, not when the item before it was taken.
-/

namespace DuplexStream

/-- One line of a scripted stream. -/
inductive ScriptStep where
  | wait (d : Duration)
  | send (e : Envelope)
  deriving DecidableEq

/-- How a scripted stream ends. -/
inductive ScriptEnd where
  | close
  | fail (s : Status)
  | hold
  deriving DecidableEq

/-- A timed sequence of envelopes and its end. -/
structure StreamScript where
  steps : List ScriptStep
  finish : ScriptEnd
  deriving DecidableEq

/-- What happens to one call. -/
inductive CallScript where
  | refuse (reason : String)
  | reject (s : Status)
  | stream (s : StreamScript)
  deriving DecidableEq

namespace StreamScript

/-- A data message of a script. It has no timestamp and asks for an acknowledgement. -/
def message (id : UInt64) (payload : List UInt8) : ScriptStep :=
  .send (.data ⟨id, 0, payload, true⟩)

/-- The numbered messages from `id` on, `count` of them, with a wait before each. -/
def numbered (interval : Duration) : Nat → Nat → List ScriptStep
  | 0, _ => []
  | count + 1, id =>
    .wait interval ::
      message (UInt64.ofNat id) (Text.Utf8.bytesOf ("Message " ++ toString id)) ::
      numbered interval count (id + 1)

/-- Messages with the ids from one to `count`, with a wait between any two of them. -/
def periodic (count : Nat) (interval : Duration) : List ScriptStep :=
  (numbered interval count 1).drop 1

end StreamScript

/-- A stream being played: what is still to come, and when the wait that has begun is over. -/
structure Inbound where
  steps : List ScriptStep
  finish : ScriptEnd
  wake : Option Nat
  deriving DecidableEq

/-- What a stream answers when it is asked for its next item. -/
inductive Arrival where
  | item (e : Envelope) (rest : Inbound)
  | status (s : Status) (rest : Inbound)
  | closed
  | moved (rest : Inbound)
  | pending
  deriving DecidableEq

namespace Inbound

/-- A stream from its start. -/
def ofStream (s : StreamScript) : Inbound :=
  ⟨s.steps, s.finish, none⟩

/-- Asks for the next item at a moment. A stream that moves has started a wait or left one behind
and can be asked again. A status comes once; after it the stream is closed. -/
def poll (i : Inbound) (now : Nat) : Arrival :=
  match i.steps with
  | .send e :: rest => .item e ⟨rest, i.finish, none⟩
  | .wait d :: rest =>
    match i.wake with
    | none => .moved { i with wake := some (now + d.ticks) }
    | some wake => if wake ≤ now then .moved ⟨rest, i.finish, none⟩ else .pending
  | [] =>
    match i.finish with
    | .close => .closed
    | .fail s => .status s ⟨[], .close, i.wake⟩
    | .hold => .pending

/-- How often a stream can still move or give an item, at most. -/
def size (i : Inbound) : Nat :=
  2 * i.steps.length + (if i.wake.isNone then 1 else 0)

end Inbound

end DuplexStream
