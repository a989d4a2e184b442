import DuplexStream.Transport.Clients

/-!
# Rehearsing a transport

Calls on a scripted transport made by hand: opening streams, reading them one item at a time,
sending on them, and looking at what was sent. One thing is done at a time on a clock that goes on
while something waits.
-/

namespace DuplexStream

/-- A transport that keeps what is sent on each stream, what the caller reads of each stream unless
it has let go of it, and the clock. -/
structure TransportRehearsal where
  transport : ScriptedTransport (Exchange Envelope)
  lines : List (Option Inbound)
  now : Nat

/-- What can be done with a transport. A stream is named by its place among the opened ones. -/
inductive TransportStep where
  | openStream (capacity : Nat)
  | next (line : Nat)
  | send (line : Nat) (e : Envelope)
  | sent (line : Nat)
  | push (s : CallScript)
  | sleep (d : Duration)
  | dropStream (line : Nat)
  | dropSender (line : Nat)

/-- What it comes to. -/
inductive TransportResult where
  | opened (line : Nat)
  | failed (e : StreamError)
  | unserviceable
  | item (e : Envelope)
  | status (s : Status)
  | ended
  | pending
  | noStream
  | sent
  | full
  | streamClosed
  | noSender
  | envelopes (es : List Envelope)
  | nothing

namespace TransportRehearsal

/-- How long a caller waits for the next item, in ticks. -/
def readPatience : Nat := 60000

/-- How long a caller waits for room, in ticks. -/
def sendPatience : Nat := 1000

/-- Before the first call. -/
def ofScripts (scripts : List CallScript) : TransportRehearsal :=
  ⟨.ofScripts scripts, [], 0⟩

/-- Plays a stream up to its next item, its end, or a deadline: the result, what is still to come,
and the tick. A wait that ends at the deadline ends before it. Takes at most `n` moves. -/
def play (deadline : Nat) : Nat → Nat → Inbound → TransportResult × Inbound × Nat
  | 0, now, i => (.pending, i, now)
  | n + 1, now, i =>
    match i.poll now with
    | .item e rest => (.item e, rest, now)
    | .status s rest => (.status s, rest, now)
    | .closed => (.ended, i, now)
    | .moved rest => play deadline n now rest
    | .pending =>
      match i.wake with
      | some wake => if wake ≤ deadline then play deadline n wake i else (.pending, i, deadline)
      | none => (.pending, i, deadline)

/-- Makes a move. -/
def make (t : TransportRehearsal) (m : ScriptedTransport.Move) :
    ScriptedTransport.Answer × TransportRehearsal :=
  ((t.transport.step m).1, { t with transport := (t.transport.step m).2 })

/-- Opens a stream. -/
def openStream (t : TransportRehearsal) (capacity : Nat) : TransportResult × TransportRehearsal :=
  match t.make (.openStream capacity t.now) with
  | (.opened line s, t') => (.opened line, { t' with lines := t'.lines ++ [some (.ofStream s)] })
  | (.failed _ e, t') => (.failed e, t')
  | (_, t') => (.unserviceable, t')

/-- Reads the next item of a stream. -/
def next (t : TransportRehearsal) (line : Nat) : TransportResult × TransportRehearsal :=
  match t.lines[line]?.join with
  | none => (.noStream, t)
  | some i =>
    let (result, rest, now) := play (t.now + readPatience) (2 * i.size + 2) t.now i
    (result, { t with lines := t.lines.set line (some rest), now := now })

/-- Sends on a stream, waiting for room as long as its patience lasts. Nobody takes anything
meanwhile, so a full queue stays full. -/
def send (t : TransportRehearsal) (line : Nat) (e : Envelope) :
    TransportResult × TransportRehearsal :=
  match t.make (.client line (.send e)) with
  | (.client (.sent _), t') => (.sent, t')
  | (.client (.streamClosed _), t') => (.streamClosed, t')
  | (.client .waits, t') =>
    (.full, (({ t' with now := t'.now + sendPatience }).make (.client line (.abandon 0))).2)
  | (_, t') => (.noSender, t')

/-- What was sent on a stream and has not been shown yet. -/
def takeSent (t : TransportRehearsal) (line : Nat) : TransportResult × TransportRehearsal :=
  match t.make (.sent line) with
  | (.shown es, t') => (.envelopes es, t')
  | (_, t') => (.envelopes [], t')

/-- Does one thing. -/
def step (t : TransportRehearsal) : TransportStep → TransportResult × TransportRehearsal
  | .openStream capacity => t.openStream capacity
  | .next line => t.next line
  | .send line e => t.send line e
  | .sent line => t.takeSent line
  | .push s => (.nothing, (t.make (.push s)).2)
  | .sleep d => (.nothing, { t with now := t.now + d.ticks })
  | .dropStream line => (.nothing, { t with lines := t.lines.set line none })
  | .dropSender line => (.nothing, (t.make (.client line .dropSender)).2)

/-- Does things one after the other, giving each result with the tick at which it was there. -/
def steps (t : TransportRehearsal) :
    List TransportStep → List (TransportResult × Nat) × TransportRehearsal
  | [] => ([], t)
  | s :: rest =>
    let (result, t') := t.step s
    let (results, last) := t'.steps rest
    ((result, t'.now) :: results, last)

end TransportRehearsal

end DuplexStream
