import DuplexStream.Controller.Run
import DuplexStream.Rehearsal.Session

/-!
# Rehearsing a controller

Steps on one controller over one scripted transport: whole runs, single decisions, and scripts that
are added in between. Each run has its own limit, counted from its start.
-/

namespace DuplexStream

/-- What is rehearsed. The limit is the length of a run. -/
structure ControllerRehearsal where
  plan : SessionPlan
  around : Surroundings
  limit : Nat

/-- What can be done with a controller. -/
inductive ControllerStep where
  | run
  | judge (o : Outcome)
  | push (s : CallScript)

/-- What a step comes to. -/
inductive ControllerResult where
  | finished (s : RunTotals)
  | unfinished
  | unserviceable
  | judged (d : FollowUp)
  | pushed

/-- A controller between two steps. The log has the latest event first. -/
structure ControllerSeen where
  controller : Controller
  transport : ScriptedTransport Session
  moment : Moment
  log : List Event

namespace ControllerRehearsal

/-- What a run of the rehearsed controller depends on. -/
def frame (r : ControllerRehearsal) (now : Moment) : RunFrame :=
  .plain ScriptedTransport.target r.around.shutDown r.around.shutdownAt (now.tick + r.limit)

/-- A whole run. -/
def run (r : ControllerRehearsal) (c : ControllerSeen) : ControllerResult × ControllerSeen :=
  let frame := r.frame c.moment
  let source := AttemptSource.scripted r.plan r.around frame.limit
  let (ended, last) := Run.toEnd frame source c.controller c.transport c.moment
  let seen := ⟨last.controller, last.source, last.moment, last.log ++ c.log⟩
  match ended with
  | .finished => (.finished last.totals, seen)
  | .unfinished => (.unfinished, seen)
  | .unserviceable => (.unserviceable, seen)
  | .overflowed => (.unserviceable, seen)

/-- One step. -/
def step (r : ControllerRehearsal) (c : ControllerSeen) :
    ControllerStep → ControllerResult × ControllerSeen
  | .run => r.run c
  | .judge o =>
    let (decision, controller) := c.controller.judge o
    (.judged decision,
      { c with
        controller := controller
        log := (c.controller.judgeEvents o).reverse ++ c.log })
  | .push s => (.pushed, { c with transport := c.transport.push s })

/-- Steps one after the other, giving each result with the controller after it. -/
def steps (r : ControllerRehearsal) (c : ControllerSeen) :
    List ControllerStep → List (ControllerResult × ControllerSeen) × ControllerSeen
  | [] => ([], c)
  | s :: rest =>
    let (result, c') := r.step c s
    let (results, last) := r.steps c' rest
    ((result, c') :: results, last)

/-- A rehearsal from its start. -/
def start (policy : RetryPolicy) (scripts : List CallScript) : ControllerSeen :=
  ⟨.fresh policy, .ofScripts scripts, .origin, []⟩

end ControllerRehearsal

end DuplexStream
