import DuplexStream.Session.Run
import DuplexStream.Transport

/-!
# Attempts

An attempt opens a stream and runs a session on it. It may not get that far: after a shutdown no
call is made, a call may fail, and a channel capacity outside the admitted range stops everything.
-/

namespace DuplexStream

/-- What opening a stream comes to. -/
inductive Opening where
  | refused (r : Report)
  | unserviceable
  | opened (s : Session)

/-- How an attempt ends: without a stream, with the report of a session, at the limit of the clock,
or at a channel that cannot be made. -/
inductive AttemptEnd where
  | unopened (r : Report)
  | streamed (r : Report)
  | unfinished
  | unserviceable
  deriving DecidableEq

/-- An attempt: what was noted while opening and while streaming, how it ended, and when. -/
structure Attempt where
  opening : List Event
  streaming : List Event
  finish : AttemptEnd
  ended : Moment

namespace Attempt

/-- Opens a stream on a scripted transport. -/
def openOn (plan : SessionPlan) (attempt : Nat) (around : Surroundings) (now : Moment)
    (t : ScriptedTransport Session) : Opening × List Event × ScriptedTransport Session :=
  if around.hasShutDown now then (.refused (.ofShutdown attempt), [], t)
  else if !Queue.admits plan.channelBuffer then (.unserviceable, [], t)
  else
    let opening : Event := .opening attempt ScriptedTransport.target
    match t.call now.tick with
    | (.ok stream, t') =>
      (.opened (Session.start plan attempt stream around now), [opening], t')
    | (.error e, t') =>
      let r := Report.ofOpenError attempt e
      (.refused r, [opening, .ended attempt 0 r.outcome r.detail], t')

/-- Runs an open session up to a limit of the clock. -/
def stream (opening : List Event) (limit : Nat) (s : Session) : Attempt × Session :=
  let last := s.run limit
  let finish := match last.report? with
    | some r => .streamed r
    | none => .unfinished
  (⟨opening, last.log.reverse ++ last.endEvents, finish, last.moment⟩, last)

/-- Opens and runs one attempt on a scripted transport, up to a limit of the clock. -/
def run (plan : SessionPlan) (around : Surroundings) (limit : Nat)
    (t : ScriptedTransport Session) (attempt : Nat) (now : Moment) :
    Attempt × ScriptedTransport Session :=
  match openOn plan attempt around now t with
  | (.refused r, opening, t') => (⟨opening, [], .unopened r, now⟩, t')
  | (.unserviceable, opening, t') => (⟨opening, [], .unserviceable, now⟩, t')
  | (.opened s, opening, t') =>
    let (a, last) := stream opening limit s
    (a, t'.attach last)

/-- The report of an attempt that has one. -/
def report? (a : Attempt) : Option Report :=
  match a.finish with
  | .unopened r => some r
  | .streamed r => some r
  | .unfinished => none
  | .unserviceable => none

/-- The stream was opened. -/
def wasOpened (a : Attempt) : Bool :=
  match a.finish with
  | .streamed _ => true
  | .unfinished => true
  | .unopened _ => false
  | .unserviceable => false

/-- Everything noted, in order. -/
def events (a : Attempt) : List Event :=
  a.opening ++ a.streaming

end Attempt

end DuplexStream
