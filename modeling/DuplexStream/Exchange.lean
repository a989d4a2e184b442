import DuplexStream.Duration
import DuplexStream.Queue

/-!
# Hand-offs whose ends wait

An `Exchange` is a bounded queue both of whose ends may wait, with a clock. A send that finds no
room joins the sends that wait; a place that gets free is kept for the first of them that has none,
so that nobody who comes later takes it. A send that is given up leaves, and a place kept for it
goes to the next one. The receiver waits up to a deadline: a new item calls it, and so does the
departure of the last sender. The clock stands still while it is called, and never passes its
deadline.

What is done at either end is a `Move`; moves come in any order. One that makes no sense where it
comes, such as a send without a sender, is `impossible` and changes nothing.
-/

namespace DuplexStream

/-- A queue, the sends and the receive that wait on it, and the clock. -/
structure Exchange (α : Type) where
  queue : Queue α
  /-- The items of the sends that wait, in the order in which they came. -/
  waiting : List α
  /-- A place in the queue is kept for the first so many of them. -/
  kept : Nat
  /-- When the receive that waits is given up. -/
  deadline : Option Nat
  /-- The receive that waits has been called since it last looked. -/
  called : Bool
  now : Nat

namespace Exchange

/-- What is done. A send that waits is named by its place among them. -/
inductive Move (α : Type) where
  | send (a : α)
  | resume (i : Nat)
  | abandon (i : Nat)
  | receive (wait : Duration)
  | look
  | addSender
  | dropSender
  | dropReceiver
  | passTo (tick : Nat)

/-- What it comes to. -/
inductive Answer (α : Type) where
  | sent (a : α)
  | streamClosed (a : α)
  | abandoned (a : α)
  | waits
  | item (a : α)
  | closed
  | timedOut
  | senderAdded
  | senderDropped
  | receiverDropped
  | passed
  | impossible

variable {α : Type}

/-- An empty queue with one sender. Nobody waits. -/
def ofCapacity (capacity : Nat) : Exchange α :=
  ⟨.ofCapacity capacity, [], 0, none, false, 0⟩

/-- Some place is neither taken nor kept. -/
def hasRoom (x : Exchange α) : Bool :=
  decide (x.queue.items.length + x.kept < x.queue.capacity)

/-- A send that waits leaves with its item. A place kept for it goes to the next one. -/
def withdraw (x : Exchange α) (i : Nat) : Exchange α :=
  { x with waiting := x.waiting.eraseIdx i, kept := min x.kept (x.waiting.eraseIdx i).length }

/-- A sender sends an item, or begins to wait for room. -/
def send (x : Exchange α) (a : α) : Answer α × Exchange α :=
  if x.queue.senders = 0 then (.impossible, x)
  else
    match x.queue.send a, x.hasRoom with
    | .closed, _ => (.streamClosed a, x)
    | .sent queue, true => (.sent a, { x with queue := queue, called := true })
    | _, _ => (.waits, { x with waiting := x.waiting ++ [a] })

/-- A send that waits looks whether a place is kept for it. -/
def resume (x : Exchange α) (i : Nat) : Answer α × Exchange α :=
  match x.waiting[i]? with
  | none => (.impossible, x)
  | some a =>
    match x.queue.send a, decide (i < x.kept) with
    | .closed, _ => (.streamClosed a, x.withdraw i)
    | .sent queue, true =>
      (.sent a,
        { x with
          queue := queue
          waiting := x.waiting.eraseIdx i
          kept := x.kept - 1
          called := true })
    | _, _ => (.waits, x)

/-- A send that waits is given up. -/
def abandon (x : Exchange α) (i : Nat) : Answer α × Exchange α :=
  match x.waiting[i]? with
  | none => (.impossible, x)
  | some a => (.abandoned a, x.withdraw i)

/-- The receiver looks for an item. There being none, it goes on waiting up to a deadline. -/
def poll (x : Exchange α) (deadline : Nat) : Answer α × Exchange α :=
  match x.queue.receive with
  | .item a queue =>
    (.item a,
      { x with queue := queue, kept := min (x.kept + 1) x.waiting.length, deadline := none })
  | .closed => (.closed, { x with deadline := none })
  | .empty =>
    if deadline ≤ x.now then (.timedOut, { x with deadline := none })
    else (.waits, { x with deadline := some deadline, called := false })

/-- The receiver asks for an item. -/
def receive (x : Exchange α) (wait : Duration) : Answer α × Exchange α :=
  if x.queue.listening && x.deadline.isNone then x.poll (x.now + wait.ticks) else (.impossible, x)

/-- The receive that waits looks again. -/
def look (x : Exchange α) : Answer α × Exchange α :=
  match x.deadline with
  | some deadline => x.poll deadline
  | none => (.impossible, x)

/-- A sender is cloned. -/
def addSender (x : Exchange α) : Answer α × Exchange α :=
  if x.queue.senders = 0 then (.impossible, x)
  else (.senderAdded, { x with queue := x.queue.addSender })

/-- A sender goes. The last one stays while a send of its waits. -/
def dropSender (x : Exchange α) : Answer α × Exchange α :=
  if x.queue.senders = 0 ∨ (x.queue.senders = 1 ∧ !x.waiting.isEmpty) then (.impossible, x)
  else
    (.senderDropped,
      { x with
        queue := x.queue.dropSender
        called := x.called || decide (x.queue.senders = 1) })

/-- The receiver goes, unless a receive of its waits. -/
def dropReceiver (x : Exchange α) : Answer α × Exchange α :=
  if x.queue.listening && x.deadline.isNone then
    (.receiverDropped, { x with queue := x.queue.hangUp })
  else (.impossible, x)

/-- The clock goes on towards a tick as far as the receiver lets it. -/
def passTo (x : Exchange α) (tick : Nat) : Exchange α :=
  match x.deadline with
  | none => { x with now := max x.now tick }
  | some deadline => if x.called then x else { x with now := max x.now (min tick deadline) }

/-- Makes one move. -/
def step (x : Exchange α) : Move α → Answer α × Exchange α
  | .send a => x.send a
  | .resume i => x.resume i
  | .abandon i => x.abandon i
  | .receive wait => x.receive wait
  | .look => x.look
  | .addSender => x.addSender
  | .dropSender => x.dropSender
  | .dropReceiver => x.dropReceiver
  | .passTo tick => (.passed, x.passTo tick)

/-- The move is one of a sender. -/
def Move.isSenders : Move α → Bool
  | .send _ => true
  | .resume _ => true
  | .abandon _ => true
  | .addSender => true
  | .dropSender => true
  | _ => false

/-- The receiver takes what is there without waiting, looking at most `n` times. -/
def takeUpTo (x : Exchange α) : Nat → List α × Exchange α
  | 0 => ([], x)
  | n + 1 =>
    match x.receive (.ofMillis 0) with
    | (.item a, next) =>
      let (rest, last) := next.takeUpTo n
      (a :: rest, last)
    | (_, next) => ([], next)

/-- The receiver takes what is there until it finds nothing more. -/
def takeAll (x : Exchange α) : List α × Exchange α :=
  x.takeUpTo (x.queue.items.length + 1)

/-- What has been done, each move with its answer. -/
abbrev Log (α : Type) := List (Move α × Answer α)

/-- Makes moves one after the other, and writes down what each comes to. -/
def run (x : Exchange α) : List (Move α) → Log α × Exchange α
  | [] => ([], x)
  | m :: moves =>
    let (answer, next) := x.step m
    let (log, last) := next.run moves
    ((m, answer) :: log, last)

end Exchange

end DuplexStream
