import DuplexStream.Duration
import DuplexStream.Queue
import DuplexStream.Session.Moment

/-!
# The listening side of the peer

What a peer does with the acknowledgements on their way to it: it leaves them unread, hangs up,
reads one at a time with a rest before each, or follows a schedule of visits. A rest begins when the
item before it has been read, and a peer that finds nothing waits.

A schedule says for each visit how long the peer rests before it and what it does then, so that it
may read at any moments, in bursts or singly, stop reading, and hang up whenever it likes.
-/

namespace DuplexStream

/-- What a peer does at a visit: it takes what is there, up to a number of items, or waits for one
item and takes it, or hangs up. -/
inductive PeerMove where
  | take (n : Nat)
  | await
  | leave
  deriving DecidableEq

/-- A rest, and what the peer does after it. -/
structure Visit where
  rest : Duration
  move : PeerMove
  deriving DecidableEq

/-- What a peer is going to do with what it is sent. -/
inductive PeerPlan where
  | ignore
  | leave
  | leaveAfter (d : Duration)
  | readEvery (d : Duration)
  | follow (schedule : List Visit)
  deriving DecidableEq

/-- Where the listening side stands. One that follows a schedule rests since a tick before its next
visit, or waits for an item. -/
inductive Listening where
  | ignoring
  | gone
  | leaving (tick : Nat)
  | resting (tick : Nat)
  | ready
  | visiting (since : Nat) (schedule : List Visit)
  | awaiting (later : List Visit)
  deriving DecidableEq

/-- The listening side: how long it rests, where it stands, and what it has read. -/
structure Peer where
  rest : Nat
  phase : Listening
  taken : List UInt64
  deriving DecidableEq

namespace Peer

/-- The listening side of a stream that opens at a tick. -/
def ofPlan (plan : PeerPlan) (now : Nat) : Peer :=
  match plan with
  | .ignore => ⟨0, .ignoring, []⟩
  | .leave => ⟨0, .gone, []⟩
  | .leaveAfter d => ⟨0, .leaving (now + d.ticks), []⟩
  | .readEvery d => ⟨d.ticks, .resting (now + d.ticks), []⟩
  | .follow schedule => ⟨0, .visiting now schedule, []⟩

/-- The queue towards a peer at the moment the stream opens. -/
def openQueue (p : Peer) (capacity : Nat) : Queue UInt64 :=
  match p.phase with
  | .gone => (Queue.ofCapacity capacity).hangUp
  | _ => .ofCapacity capacity

/-- When the peer will do something of its own. -/
def due? (p : Peer) : Option Nat :=
  match p.phase with
  | .leaving tick => some tick
  | .resting tick => some tick
  | .visiting since (v :: _) => some (since + v.rest.ticks)
  | _ => none

/-- A peer that is ready reads: everything if it never rests, else one item. -/
def read (p : Peer) (now : Nat) (q : Queue UInt64) : Peer × Queue UInt64 :=
  if p.rest = 0 then
    ({ p with phase := .ready, taken := p.taken ++ q.items }, { q with items := [] })
  else
    match q.items with
    | [] => ({ p with phase := .ready }, q)
    | a :: rest =>
      ({ p with phase := .resting (now + p.rest), taken := p.taken ++ [a] },
        { q with items := rest })

/-- A peer that waits for an item takes one, and rests before its next visit. -/
def await (p : Peer) (later : List Visit) (now : Nat) (q : Queue UInt64) : Peer × Queue UInt64 :=
  match q.items with
  | [] => ({ p with phase := .awaiting later }, q)
  | a :: rest =>
    ({ p with phase := .visiting now later, taken := p.taken ++ [a] }, { q with items := rest })

/-- A peer pays a visit, with others to come later. -/
def visit (p : Peer) (move : PeerMove) (later : List Visit) (now : Nat) (q : Queue UInt64) :
    Peer × Queue UInt64 :=
  match move with
  | .take n =>
    ({ p with phase := .visiting now later, taken := p.taken ++ q.items.take n },
      { q with items := q.items.drop n })
  | .await => p.await later now q
  | .leave => ({ p with phase := .gone }, q.hangUp)

/-- The peer can do something now. -/
def canAct (p : Peer) (now : Nat) (q : Queue UInt64) : Bool :=
  match p.phase with
  | .leaving tick => decide (tick ≤ now)
  | .resting tick => decide (tick ≤ now)
  | .ready => !q.items.isEmpty
  | .visiting since (v :: _) => decide (since + v.rest.ticks ≤ now)
  | .awaiting _ => !q.items.isEmpty
  | _ => false

/-- The peer does what it can do now. -/
def act (p : Peer) (now : Nat) (q : Queue UInt64) : Peer × Queue UInt64 :=
  match p.phase with
  | .leaving tick => if tick ≤ now then ({ p with phase := .gone }, q.hangUp) else (p, q)
  | .resting tick => if tick ≤ now then p.read now q else (p, q)
  | .ready => p.read now q
  | .visiting since (v :: later) =>
    if since + v.rest.ticks ≤ now then p.visit v.move later now q else (p, q)
  | .awaiting later => p.await later now q
  | _ => (p, q)

/-- What is read of the items left behind up to a moment, if the next one is read at `tick`. -/
def readOn (rest : Nat) (horizon : Moment) : Nat → List UInt64 → List UInt64
  | _, [] => []
  | tick, a :: items =>
    if horizon.reached tick then a :: readOn rest horizon (tick + rest) items else []

/-- What is taken of the items left behind at the visits up to a moment. Once the visits are over,
what is left is on its way. -/
def takeOn (horizon : Moment) : Nat → List Visit → List UInt64 → List UInt64
  | _, [], items => items
  | since, v :: later, items =>
    let tick := since + v.rest.ticks
    if horizon.reached tick then
      match v.move, items with
      | .take n, _ => items.take n ++ takeOn horizon tick later (items.drop n)
      | .await, a :: rest => a :: takeOn horizon tick later rest
      | .await, [] => []
      | .leave, _ => []
    else []

/-- What the peer has been given up to a moment: what it has read, and goes on reading after the
session has ended at `now`. A peer that reads nothing any more has been given what is on its way to
it, as long as it does not hang up at all. -/
def given (p : Peer) (now : Nat) (q : Queue UInt64) (horizon : Moment) : List UInt64 :=
  match p.phase with
  | .ignoring => p.taken ++ q.items
  | .gone => p.taken
  | .leaving _ => p.taken
  | .resting tick => p.taken ++ readOn p.rest horizon tick q.items
  | .ready => p.taken ++ readOn p.rest horizon now q.items
  | .visiting since schedule => p.taken ++ takeOn horizon since schedule q.items
  | .awaiting later =>
    match q.items with
    | [] => p.taken
    | a :: rest => p.taken ++ a :: takeOn horizon now later rest

end Peer

end DuplexStream
