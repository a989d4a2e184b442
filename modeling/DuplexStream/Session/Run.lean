import DuplexStream.Session.Basic

/-!
# Running a session

A run repeats: the loops move as long as they can, then the surroundings have their turn, then the
clock goes on to the next timer. It stops when both loops have ended, or at a limit of the clock.

`Session.rank` bounds the number of repetitions. Every item still to come is worth more than what
it can become: an envelope more than an acknowledgement that is being queued, that one more than
a queued one, and so on to the peer.
-/

namespace DuplexStream.Session

/-- What the read loop can still do. An envelope on its way in is worth eight moves, a wait two. -/
def inboundRank (i : Inbound) : Nat :=
  8 * i.size

/-- What is left of the read loop. -/
def readingRank : Reading → Nat
  | .receiving => 1
  | .queueing _ => 7
  | .ended _ => 0

/-- What is left of the write loop. A deadline that has passed is one more move. -/
def writingRank (phase : Writing) (now : Nat) : Nat :=
  match phase with
  | .polling deadline => if deadline ≤ now then 2 else 1
  | .sending _ => 4
  | .ended => 0

/-- What is left of the peer's own plans. -/
def peerRank (p : Peer) (now : Nat) : Nat :=
  match p.phase with
  | .leaving tick => if tick ≤ now then 1 else 0
  | .resting tick => if tick ≤ now then 1 else 0
  | .visiting _ schedule => 2 * schedule.length
  | .awaiting later => 2 * later.length + 1
  | _ => 0

/-- A bound on the moves up to a limit of the clock. -/
def rank (limit : Nat) (s : Session) : Nat :=
  4 * (limit - s.now) + (if s.settled then 0 else 1) + inboundRank s.inbound +
    readingRank s.reading + 5 * s.writer.queue.items.length + writingRank s.writer.phase s.now +
    2 * s.writer.outbound.items.length + peerRank s.peer s.now

/-- One repetition of a run, and none when the run is over. -/
def next (limit : Nat) (s : Session) : Option Session :=
  match s.step with
  | some s' => some s'
  | none =>
    if s.isFinished || decide (limit ≤ s.now) then none
    else if s.unsettled then some s.settle
    else some (s.advance limit)

/-- Repeats at most `n` times. -/
def runFor (limit : Nat) : Nat → Session → Session
  | 0, s => s
  | n + 1, s =>
    match s.next limit with
    | some s' => runFor limit n s'
    | none => s

/-- Runs a session until it is over or the clock has reached the limit. -/
def run (limit : Nat) (s : Session) : Session :=
  s.runFor limit (s.rank limit)

/-- What is noted at the end of a session. -/
def endEvents (s : Session) : List Event :=
  match s.report? with
  | some r => [.ended r.attempt r.messageCount r.outcome r.detail]
  | none => []

end DuplexStream.Session
