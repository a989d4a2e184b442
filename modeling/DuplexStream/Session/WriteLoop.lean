import DuplexStream.Queue
import DuplexStream.Trace

/-!
# The write loop

The write loop takes acknowledgements out of its queue and sends them to the peer. It waits for an
acknowledgement until a deadline and then looks whether the session is done. An acknowledgement
that finds the outbound queue full waits for room, but not beyond the end of the session.

An acknowledgement is known by its id: the reading of the wall clock that goes out with it decides
nothing here and is left out.

`WriteLoop.step` makes one move at a tick, and none when the loop has to wait.
-/

namespace DuplexStream

/-- Where the write loop stands. -/
inductive Writing where
  | polling (deadline : Nat)
  | sending (ack : UInt64)
  | ended
  deriving DecidableEq

/-- The write loop with the two queues it joins. It counts what it has written to the peer, and the
record of it stays when the peer hangs up. -/
structure WriteLoop where
  attempt : Nat
  poll : Nat
  queue : Queue UInt64
  outbound : Queue UInt64
  done : Bool
  phase : Writing
  sent : Nat
  written : List UInt64

namespace WriteLoop

/-- A write loop that begins at a tick. A poll lasts at least one tick. -/
def start (attempt : Nat) (poll : Duration) (capacity : Nat) (outbound : Queue UInt64)
    (now : Nat) : WriteLoop :=
  let ticks := max 1 poll.ticks
  { attempt := attempt
    poll := ticks
    queue := .ofCapacity capacity
    outbound := outbound
    done := false
    phase := .polling (now + ticks)
    sent := 0
    written := [] }

/-- The loop ends: nobody listens to its queue and nobody sends to the peer any more. -/
def finish (w : WriteLoop) : WriteLoop :=
  { w with phase := .ended, queue := w.queue.hangUp, outbound := w.outbound.dropSender }

/-- What is noted when the loop ends. -/
def finishEvent (w : WriteLoop) : Event :=
  .writeLoopFinished w.attempt w.sent

/-- The loop waits for the next acknowledgement from now on. -/
def repoll (w : WriteLoop) (now : Nat) : WriteLoop :=
  { w with phase := .polling (now + w.poll) }

/-- One move of the loop, with what is noted. -/
def step (w : WriteLoop) (now : Nat) : Option (WriteLoop × List Event) :=
  match w.phase with
  | .ended => none
  | .polling deadline =>
    match w.queue.receive with
    | .item ack queue => some ({ w with queue := queue, phase := .sending ack }, [])
    | .closed => some (w.finish, [w.finishEvent])
    | .empty =>
      if deadline ≤ now then
        if w.done then some (w.finish, [w.finishEvent]) else some (w.repoll now, [])
      else none
  | .sending ack =>
    match w.outbound.send ack with
    | .sent outbound =>
      some
        ({ w with
          outbound := outbound
          sent := w.sent + 1
          written := w.written ++ [ack] }.repoll now,
        [.sentAck w.attempt ack])
    | .closed => some (w.finish, [.outboundClosed w.attempt, w.finishEvent])
    | .full =>
      if w.done then some (w.finish, [.outboundFull w.attempt ack, w.finishEvent]) else none

/-- The moment at which the loop gives up its present wait. -/
def deadline? (w : WriteLoop) : Option Nat :=
  match w.phase with
  | .polling deadline => some deadline
  | _ => none

/-- The loop has ended. -/
def isEnded (w : WriteLoop) : Bool :=
  match w.phase with
  | .ended => true
  | _ => false

end WriteLoop

end DuplexStream
