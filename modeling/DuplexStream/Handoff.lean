import DuplexStream.Exchange

/-!
# Rehearsing a hand-off

A `Handoff` plays an exchange by hand: there are senders at hand and others that leave later, and
one thing is done at a time. A receive waits as long as it is told to, a send as long as its
patience lasts; while one of them waits, the senders that leave do so.
-/

namespace DuplexStream

/-- An exchange, and when the senders that are no longer at hand leave it. -/
structure Handoff (α : Type) where
  exchange : Exchange α
  leaving : List Nat

/-- What can be done with a hand-off. -/
inductive HandoffStep (α : Type) where
  | send (a : α)
  | receive (wait : Duration)
  | addSender
  | dropSender
  | dropSenderIn (d : Duration)
  | dropReceiver

/-- What it comes to. -/
inductive HandoffResult (α : Type) where
  | sent
  | full
  | streamClosed
  | noSender
  | item (a : α)
  | closed
  | timedOut
  | noReceiver
  | senders (n : Nat)
  | gone

namespace Handoff

variable {α : Type}

/-- How long a sender waits for room, in ticks. -/
def patience : Nat := 1000

/-- An empty queue with one sender at hand. -/
def ofCapacity (capacity : Nat) : Handoff α :=
  ⟨.ofCapacity capacity, []⟩

/-- How many senders are at hand. -/
def held (h : Handoff α) : Nat :=
  h.exchange.queue.senders - h.leaving.length

/-- Makes a move. -/
def make (h : Handoff α) (m : Exchange.Move α) : Exchange.Answer α × Handoff α :=
  ((h.exchange.step m).1, { h with exchange := (h.exchange.step m).2 })

/-- What goes on until a tick: the senders that leave before it do so. -/
def departures (h : Handoff α) (tick : Nat) : List (Exchange.Move α) :=
  (h.leaving.filter (· < tick)).mergeSort.flatMap (fun leave => [.passTo leave, .dropSender]) ++
    [.passTo tick]

/-- Waits until a tick, or until the receiver is called. -/
def waitUntil (h : Handoff α) (tick : Nat) : Handoff α :=
  ⟨(h.exchange.run (h.departures tick)).2, h.leaving.filter (tick ≤ ·)⟩

/-- The first sender sends an item, waiting for room as long as its patience lasts. While it waits
nobody receives, so a full queue stays full. -/
def send (h : Handoff α) (a : α) : HandoffResult α × Handoff α :=
  if h.held = 0 then (.noSender, h)
  else
    match h.make (.send a) with
    | (.sent _, h') => (.sent, h')
    | (.streamClosed _, h') => (.streamClosed, h')
    | (_, h') =>
      (.full, ((h'.waitUntil (h'.exchange.now + patience)).make (.abandon 0)).2)

/-- What a receive shows of an answer. -/
def shown : Exchange.Answer α → HandoffResult α
  | .item a => .item a
  | .closed => .closed
  | _ => .timedOut

/-- The receiver takes an item, waiting for one if there is none. -/
def receive (h : Handoff α) (wait : Duration) : HandoffResult α × Handoff α :=
  if !h.exchange.queue.listening then (.noReceiver, h)
  else
    match h.make (.receive wait) with
    | (.waits, h') =>
      let looked := (h'.waitUntil (h'.exchange.now + wait.ticks)).make .look
      (shown looked.1, looked.2)
    | (answer, h') => (shown answer, h')

/-- Does one thing. -/
def step (h : Handoff α) : HandoffStep α → HandoffResult α × Handoff α
  | .send a => h.send a
  | .receive wait => h.receive wait
  | .addSender =>
    if h.held = 0 then (.senders 0, h) else (.senders (h.held + 1), (h.make .addSender).2)
  | .dropSender =>
    if h.held = 0 then (.senders 0, h) else (.senders (h.held - 1), (h.make .dropSender).2)
  | .dropSenderIn d =>
    if h.held = 0 then (.senders 0, h)
    else
      (.senders (h.held - 1), { h with leaving := h.leaving ++ [h.exchange.now + d.ticks] })
  | .dropReceiver => (.gone, (h.make .dropReceiver).2)

/-- Does things one after the other, giving each result with the tick at which it was there. -/
def steps (h : Handoff α) : List (HandoffStep α) → List (HandoffResult α × Nat) × Handoff α
  | [] => ([], h)
  | s :: rest =>
    let (result, h') := h.step s
    let (results, last) := h'.steps rest
    ((result, h'.exchange.now) :: results, last)

end Handoff

end DuplexStream
