import DuplexStream.Attempt

/-!
# Rehearsing a session

One attempt on a scripted transport, with requests made from outside before it runs or while it
does. The result tells what was seen of it.
-/

namespace DuplexStream

/-- What is rehearsed: the attempt, its surroundings, requests made on the open session before it
runs, and the limit of the clock. -/
structure SessionRehearsal where
  plan : SessionPlan
  scripts : List CallScript
  attempt : Nat
  around : Surroundings
  cancelFirst : Bool
  shutdownFirst : Bool
  limit : Nat

/-- What was seen: the attempt, whether the stream opened, and the transport afterwards. -/
structure SessionSeen where
  attempt : Attempt
  opened : Bool
  transport : ScriptedTransport Session

namespace ScriptedTransport

/-- What the peer has been given up to a moment, stream by stream, in one list per call. -/
def given (t : ScriptedTransport Session) (horizon : Moment) : List (List UInt64) :=
  let lists := t.streams.map fun s => s.given horizon
  lists ++ List.replicate (t.openedAt.length - lists.length) []

end ScriptedTransport

namespace SessionRehearsal

/-- The open session with the requests that come before it runs. -/
def prepare (r : SessionRehearsal) (s : Session) : Session :=
  let cancelled := if r.cancelFirst then s.requestCancel else s
  { cancelled with shutdown := cancelled.shutdown || r.shutdownFirst }

/-- Rehearses the session. -/
def run (r : SessionRehearsal) : SessionSeen :=
  match Attempt.openOn r.plan r.attempt r.around .origin (.ofScripts r.scripts) with
  | (.refused report, opening, t) => ⟨⟨opening, [], .unopened report, .origin⟩, false, t⟩
  | (.unserviceable, opening, t) => ⟨⟨opening, [], .unserviceable, .origin⟩, false, t⟩
  | (.opened s, opening, t) =>
    let (a, last) := Attempt.stream opening r.limit (r.prepare s)
    ⟨a, true, t.attach last⟩

end SessionRehearsal

end DuplexStream
