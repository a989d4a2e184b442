import DuplexStream.Exchange
import DuplexStream.Transport
import DuplexStream.Wire.Message

/-!
# A transport and its clients

Streams of a scripted transport that are open at the same time. On each of them a client sends, and
what it sends is kept for the transport until somebody looks at it; so a stream is an `Exchange`
whose receiver never waits. Scripts are pushed, streams opened, and sends made, resumed and given up
in any order: each of these is a `Move`, and what was done is written down in a `Log`.
-/

namespace DuplexStream.ScriptedTransport

/-- What is done with a transport. A stream is named by its place among the opened ones. -/
inductive Move where
  | push (s : CallScript)
  | openStream (capacity now : Nat)
  | client (stream : Nat) (m : Exchange.Move Envelope)
  | sent (stream : Nat)

/-- What it comes to. A failed call tells which script was played for it, if there was one. -/
inductive Answer where
  | pushed
  | opened (stream : Nat) (s : StreamScript)
  | failed (script? : Option CallScript) (e : StreamError)
  | client (a : Exchange.Answer Envelope)
  | shown (es : List Envelope)
  | impossible

/-- A call that brings the sending half of a stream along. -/
def openStream (t : ScriptedTransport (Exchange Envelope)) (capacity now : Nat) :
    Answer × ScriptedTransport (Exchange Envelope) :=
  if !Queue.admits capacity then (.impossible, t)
  else
    match t.call now with
    | (.ok s, called) => (.opened t.streams.length s, called.attach (.ofCapacity capacity))
    | (.error e, called) => (.failed t.scripts.head? e, called)

/-- A client makes a move on its stream. -/
def client (t : ScriptedTransport (Exchange Envelope)) (stream : Nat) (m : Exchange.Move Envelope) :
    Answer × ScriptedTransport (Exchange Envelope) :=
  match m.isSenders, t.streams[stream]? with
  | true, some x => (.client (x.step m).1, { t with streams := t.streams.set stream (x.step m).2 })
  | _, _ => (.impossible, t)

/-- What was sent on a stream and has not been shown yet. -/
def sent (t : ScriptedTransport (Exchange Envelope)) (stream : Nat) :
    Answer × ScriptedTransport (Exchange Envelope) :=
  match t.streams[stream]? with
  | some x => (.shown x.takeAll.1, { t with streams := t.streams.set stream x.takeAll.2 })
  | none => (.shown [], t)

/-- Makes one move. -/
def step (t : ScriptedTransport (Exchange Envelope)) :
    Move → Answer × ScriptedTransport (Exchange Envelope)
  | .push s => (.pushed, t.push s)
  | .openStream capacity now => t.openStream capacity now
  | .client stream m => t.client stream m
  | .sent stream => t.sent stream

/-- What has been done, each move with its answer. -/
abbrev Log := List (Move × Answer)

/-- Makes moves one after the other, and writes down what each comes to. -/
def run (t : ScriptedTransport (Exchange Envelope)) :
    List Move → Log × ScriptedTransport (Exchange Envelope)
  | [] => ([], t)
  | m :: moves =>
    let (answer, next) := t.step m
    let (log, last) := next.run moves
    ((m, answer) :: log, last)

end DuplexStream.ScriptedTransport
