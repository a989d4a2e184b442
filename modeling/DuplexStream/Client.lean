import DuplexStream.Controller.Run
import DuplexStream.Settings

/-!
# The client

The client carries out settings: one attempt in the mode with a timer, else a run of the controller.
Where attempts come from is left open, as it is for the controller.
-/

namespace DuplexStream

/-- How the client ends. -/
inductive ClientEnd where
  | session (r : Report)
  | controller (s : RunTotals)
  | unfinished
  | unserviceable
  deriving DecidableEq

/-- What the client did: how it ended, the source afterwards, when, and everything noted, in
order. -/
structure ClientRun (σ : Type) where
  finish : ClientEnd
  source : σ
  moment : Moment
  events : List Event

namespace Client

variable {σ : Type}

/-- What is noted at the start. -/
def startEvents (s : Settings) : List Event :=
  [.clientStarted s.mode s.target s.wire]

/-- A single attempt. -/
def single (s : Settings) (next : AttemptSource σ) (source : σ) : ClientRun σ :=
  let (a, source') := next source 1 .origin
  let begun := startEvents s ++ .autoCancelArmed s.session.cancelAfter :: a.events
  match a.finish, a.report? with
  | .unserviceable, _ => ⟨.unserviceable, source', a.ended, begun⟩
  | _, some r => ⟨.session r, source', a.ended, begun ++ [.summary r]⟩
  | _, none => ⟨.unfinished, source', a.ended, begun⟩

/-- What is noted at the end of a run of the controller. -/
def endEvents (s : RunTotals) : List Event :=
  .clientFinished s.final s.attempts s.total :: (s.last.map Event.summary).toList

/-- A run of the controller. -/
def retrying (s : Settings) (frame : RunFrame) (next : AttemptSource σ) (source : σ) :
    ClientRun σ :=
  let (ended, run) := Run.toEnd frame next (.fresh s.policy) source .origin
  let begun := startEvents s ++ run.log.reverse
  match ended with
  | .finished =>
    ⟨.controller run.totals, run.source, run.moment, begun ++ endEvents run.totals⟩
  | .unfinished => ⟨.unfinished, run.source, run.moment, begun⟩
  | .unserviceable => ⟨.unserviceable, run.source, run.moment, begun⟩
  | .overflowed => ⟨.unserviceable, run.source, run.moment, begun⟩

/-- Carries out settings. -/
def run (s : Settings) (frame : RunFrame) (next : AttemptSource σ) (source : σ) :
    ClientRun σ :=
  match s.mode with
  | .autoCancel => single s next source
  | .simple => retrying s frame next source
  | .reliable => retrying s frame next source

end Client

end DuplexStream
