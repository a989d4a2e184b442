import DuplexStream.Trigger
import DuplexStream.Cancel
import DuplexStream.Script
import DuplexStream.Session.Peer
import DuplexStream.Session.Plan
import DuplexStream.Session.WriteLoop

/-!
# An open session

A `Session` is everything that belongs to one open call: the stream being read, the read loop and
the write loop with the queues between them and to the peer, the requests to stop, and the clock.
It also holds what will happen around it: when a cancel or a shutdown comes from outside, and what
the peer does with what it is sent.

`readStep` and `writeStep` make one move of a loop, and none when the loop has to wait. `settle` is
the turn of the surroundings. `advance` moves the clock to the next timer.
-/

namespace DuplexStream

/-- Where the read loop stands. -/
inductive Reading where
  | receiving
  | queueing (ack : UInt64)
  | ended (t : Ending)
  deriving DecidableEq

/-- Which loop has its turn. -/
inductive Turn where
  | reader
  | writer
  deriving DecidableEq

/-- What comes from outside during a session: requests planned for a tick, a shutdown that has been
there all along, what the peer does, and the keys of the draws that nobody has seeded. -/
structure Surroundings where
  cancelAt : Option Nat
  shutdownAt : Option Nat
  shutDown : Bool
  plan : PeerPlan
  entropy : Entropy

namespace Surroundings

/-- Nothing comes from outside, and the peer reads nothing. -/
def quiet : Surroundings := ⟨none, none, false, .ignore, 0⟩

/-- A shutdown has happened. -/
def hasShutDown (a : Surroundings) (m : Moment) : Bool :=
  a.shutDown || m.reachedAny a.shutdownAt

end Surroundings

/-- One open call and all that belongs to it. -/
structure Session where
  attempt : Nat
  openedAt : Nat
  now : Nat
  settled : Bool
  turn : Turn
  inbound : Inbound
  reading : Reading
  acksOpen : Bool
  layer : Option (Layer Seeded)
  trigger : Trigger
  count : Nat
  writer : WriteLoop
  peer : Peer
  cancel : CancelFlag
  shutdown : Bool
  cancelAt : Option Nat
  shutdownAt : Option Nat
  log : List Event

namespace Session

/-- The layer that a session of this kind starts with. -/
def startLayer (mode : AckMode) (entropy : Entropy) (attempt : Nat) : Option (Layer Seeded) :=
  match mode with
  | .plain => none
  | .reliable model => some (model.layer entropy attempt)

/-- A session at the moment its stream opens. -/
def start (plan : SessionPlan) (attempt : Nat) (stream : StreamScript) (around : Surroundings)
    (opened : Moment) : Session :=
  let peer := Peer.ofPlan around.plan opened.tick
  { attempt := attempt
    openedAt := opened.tick
    now := opened.tick
    settled := opened.settled
    turn := .reader
    inbound := .ofStream stream
    reading := .receiving
    acksOpen := true
    layer := startLayer plan.mode around.entropy attempt
    trigger := .ofDelay plan.cancelAfter
    count := 0
    writer :=
      .start attempt plan.writePoll plan.channelBuffer (peer.openQueue plan.channelBuffer)
        opened.tick
    peer := peer
    cancel := .clear
    shutdown := around.hasShutDown opened
    cancelAt := around.cancelAt
    shutdownAt := around.shutdownAt
    log := [] }

/-- The session with more noted; the log has the latest event first. -/
def note (s : Session) (events : List Event) : Session :=
  { s with log := events.reverse ++ s.log }

/-- The time since the stream opened, in ticks. -/
def elapsed (s : Session) : Nat :=
  s.now - s.openedAt

/-- The session with a cancel requested. -/
def requestCancel (s : Session) : Session :=
  { s with cancel := s.cancel.cancel }

/-- The read loop ends: the write loop is told so, and no more acknowledgements are queued. -/
def endReading (s : Session) (t : Ending) : Session :=
  { s with
    reading := .ended t
    writer := { s.writer with done := true, queue := s.writer.queue.dropSender } }

/-- A request to stop that the read loop finds whenever it would wait. A cancel goes first. -/
def stop? (s : Session) : Option Ending :=
  if s.cancel.signalled then some .localCancel
  else if s.shutdown then some .taskCancelled
  else none

/-- The end of a message: the trigger looks at the time that has passed. When it fires the session
cancels itself, else the loop reads on. -/
def afterMessage (s : Session) : Session :=
  let (fired, trigger) := s.trigger.observe (.ofMillis s.elapsed)
  if fired then
    (({ s with trigger := trigger }.note
      [.autoCancelled s.attempt s.elapsed s.trigger.delay]).requestCancel).endReading .localCancel
  else { s with trigger := trigger, reading := .receiving }

/-- The layer decides about a message. An acknowledgement is queued next, unless nobody would take
it any more. -/
def acknowledge (s : Session) (id : UInt64) : Session :=
  match s.layer with
  | none => s.afterMessage
  | some layer =>
    match layer.deliver id with
    | (.redelivered, layer') =>
      ({ s with layer := some layer' }.note [.redelivered id]).afterMessage
    | (.dropped, layer') =>
      ({ s with layer := some layer' }.note [.simulatedDrop id]).afterMessage
    | (.acknowledged, layer') =>
      let s' := { s with layer := some layer' }
      if s.acksOpen then { s' with reading := .queueing id } else s'.afterMessage

/-- An envelope arrives. Only data counts. -/
def receive (s : Session) (e : Envelope) : Session :=
  match e with
  | .data m =>
    ({ s with count := s.count + 1 }.note [.received s.attempt m.id m.text]).acknowledge m.id
  | .ack _ => s.note [.ignoredEnvelope s.attempt]
  | .empty => s.note [.ignoredEnvelope s.attempt]

/-- One move of the read loop, and none when it has to wait. -/
def readStep (s : Session) : Option Session :=
  match s.reading with
  | .ended _ => none
  | .receiving =>
    match s.stop? with
    | some t => some (s.endReading t)
    | none =>
      match s.inbound.poll s.now with
      | .item e rest => some ({ s with inbound := rest }.receive e)
      | .status st rest => some ({ s with inbound := rest }.endReading (.status st))
      | .closed => some (s.endReading .remoteClosed)
      | .moved rest => some { s with inbound := rest }
      | .pending => none
  | .queueing ack =>
    match s.stop? with
    | some t => some (s.endReading t)
    | none =>
      match s.writer.queue.send ack with
      | .sent queue =>
        some (({ s with writer := { s.writer with queue := queue } }.note
          [.queuedAck s.attempt ack]).afterMessage)
      | .closed =>
        some (({ s with acksOpen := false }.note [.writerStopped s.attempt ack]).afterMessage)
      | .full => none

/-- One move of the write loop, and none when it has to wait. -/
def writeStep (s : Session) : Option Session :=
  match s.writer.step s.now with
  | some (writer, events) => some ({ s with writer := writer }.note events)
  | none => none

/-- One move of the session: the loop that has its turn goes on until it has to wait, then the other
one has it. -/
def step (s : Session) : Option Session :=
  match s.turn with
  | .reader =>
    match s.readStep with
    | some s' => some s'
    | none => s.writeStep.map fun s' => { s' with turn := .writer }
  | .writer =>
    match s.writeStep with
    | some s' => some s'
    | none => s.readStep.map fun s' => { s' with turn := .reader }

/-- Something planned for a tick is due now. -/
def isDue (planned : Option Nat) (now : Nat) : Bool :=
  match planned with
  | some tick => decide (tick ≤ now)
  | none => false

/-- What is still planned after now. -/
def stillPlanned (planned : Option Nat) (now : Nat) : Option Nat :=
  if isDue planned now then none else planned

/-- The turn of the surroundings at the present tick: requests that are due arrive and the peer does
what it can. -/
def settle (s : Session) : Session :=
  let (peer, outbound) := s.peer.act s.now s.writer.outbound
  { s with
    settled := true
    turn := .reader
    cancel := if isDue s.cancelAt s.now then s.cancel.cancel else s.cancel
    shutdown := s.shutdown || isDue s.shutdownAt s.now
    cancelAt := stillPlanned s.cancelAt s.now
    shutdownAt := stillPlanned s.shutdownAt s.now
    peer := peer
    writer := { s.writer with outbound := outbound } }

/-- The surroundings have something to do at the present tick. -/
def unsettled (s : Session) : Bool :=
  !s.settled || s.peer.canAct s.now s.writer.outbound

/-- The timers of the session and of its surroundings. -/
def timers (s : Session) : List Nat :=
  let wake := match s.reading with
    | .receiving => s.inbound.wake
    | _ => none
  [wake, s.writer.deadline?, s.cancelAt, s.shutdownAt, s.peer.due?].filterMap id

/-- The earliest timer, but at most the limit. -/
def nextTick (s : Session) (limit : Nat) : Nat :=
  s.timers.foldl min limit

/-- The clock moves on, by at least a tick. -/
def advance (s : Session) (limit : Nat) : Session :=
  { s with now := max (s.now + 1) (s.nextTick limit), settled := false, turn := .reader }

/-- Both loops have ended. -/
def isFinished (s : Session) : Bool :=
  match s.reading with
  | .ended _ => s.writer.isEnded
  | _ => false

/-- The outcome of a termination. -/
def outcome (s : Session) (t : Ending) : Outcome :=
  Ending.outcome t s.cancel.requested

/-- The verdicts of the layer so far. -/
def tally (s : Session) : Tally :=
  match s.layer with
  | some layer => layer.tally
  | none => .zero

/-- The report of a session whose loops have both ended. -/
def report? (s : Session) : Option Report :=
  match s.reading with
  | .ended t =>
    if s.writer.isEnded then
      some
        { attempt := s.attempt
          outcome := s.outcome t
          messageCount := s.count
          acksSent := s.writer.sent
          drops := s.tally.dropped
          duplicates := s.tally.duplicates
          elapsed := s.elapsed
          detail := t.detail? }
    else none
  | _ => none

/-- The present moment. -/
def moment (s : Session) : Moment :=
  ⟨s.now, s.settled⟩

/-- What the peer has been given of this session up to a moment. -/
def given (s : Session) (horizon : Moment) : List UInt64 :=
  s.peer.given s.now s.writer.outbound horizon

end Session

end DuplexStream
