import DuplexStream.Attempt
import DuplexStream.Controller.Basic
import DuplexStream.Target

/-!
# Running the controller

A run makes one attempt after the other, each followed by a decision and perhaps by a pause and a
cool-down. Where attempts come from is left open: a run takes any source that yields the next
attempt. `AttemptSource.scripted` plays scripts; `AttemptSource.unreachable` always fails.

Since every failed attempt counts towards the policy's bound, a run makes at most as many attempts
as the bound leaves, and always one, unless the count of the attempts is at the end of its range.
-/

namespace DuplexStream

/-- Yields the attempt with a number that begins at a moment. -/
abbrev AttemptSource (σ : Type) := σ → Nat → Moment → Attempt × σ

/-- Attempts on a scripted transport. -/
def AttemptSource.scripted (plan : SessionPlan) (around : Surroundings) (limit : Nat) :
    AttemptSource (ScriptedTransport Session) :=
  fun t attempt now => Attempt.run plan around limit t attempt now

/-- Attempts on an address where nobody listens: every call fails. -/
def AttemptSource.unreachable (plan : SessionPlan) (connection : Connection) :
    AttemptSource Unit :=
  fun _ attempt now =>
    if !Queue.admits plan.channelBuffer then (⟨[], [], .unserviceable, now⟩, ())
    else
      let r := Report.ofOpenError attempt connection.unreachable
      let noted : List Event :=
        [.opening attempt connection.address, .ended attempt 0 r.outcome r.detail]
      (⟨noted, [], .unopened r, now⟩, ())

/-- What a run depends on besides its attempts: how the peer is called, the shutdown, the limit of
the clock, what the build does with a count beyond its range, and which pauses see the shutdown
first where it comes at the tick of their timer. A pause is known by what has been noted before
it. -/
structure RunFrame where
  server : String
  shutDown : Bool
  shutdownAt : Option Nat
  limit : Nat
  overflow : Overflow
  shutdownFirst : List Event → Bool

/-- A frame in which timers fire first, for a build that does not check its counts. -/
def RunFrame.plain (server : String) (shutDown : Bool) (shutdownAt : Option Nat) (limit : Nat) :
    RunFrame :=
  ⟨server, shutDown, shutdownAt, limit, .wraps, fun _ => false⟩

/-- A run in progress. The log has the latest event first. -/
structure Run (σ : Type) where
  controller : Controller
  source : σ
  moment : Moment
  total : Nat
  last : Option Report
  log : List Event

/-- How a run ends: in a last state, at the limit of the clock, at a channel that cannot be made, or
at a count that cannot be raised. -/
inductive RunEnd where
  | finished
  | unfinished
  | unserviceable
  | overflowed
  deriving DecidableEq

/-- What a whole run amounted to. -/
structure RunTotals where
  final : Phase
  attempts : Nat
  failures : Nat
  total : Nat
  last : Option Report
  deriving DecidableEq

namespace Run

variable {σ : Type}

/-- A run at its start. -/
def start (c : Controller) (source : σ) (now : Moment) : Run σ :=
  ⟨c, source, now, 0, none, []⟩

/-- The run with more noted. -/
def note (r : Run σ) (events : List Event) : Run σ :=
  { r with log := events.reverse ++ r.log }

/-- The controller changes its state. -/
def moveTo (r : Run σ) (target : Phase) : Run σ :=
  { r.note [.stateChanged r.controller.state target] with
    controller := r.controller.moveTo target }

/-- The run ends in a state. -/
def conclude (r : Run σ) (final : Phase) : Run σ :=
  (r.moveTo final).note [.runFinished final r.controller.attempts r.total]

/-- The next attempt cannot be counted. -/
def refused (frame : RunFrame) (r : Run σ) : Bool :=
  frame.overflow.refuses r.controller.attemptCount

/-- The next attempt is counted and announced. -/
def beginAttempt (frame : RunFrame) (r : Run σ) : Run σ :=
  let r' := r.moveTo .connecting
  let c := { r'.controller with attemptCount := r'.controller.attemptCount + 1 }
  { r' with controller := c }.note [.connecting c.attempts c.policy.maxRetries frame.server]

/-- The attempt is made: its events are noted, and a stream that opens is a change of state. -/
def makeAttempt (next : AttemptSource σ) (r : Run σ) : Attempt × Run σ :=
  let (a, source) := next r.source r.controller.attempts r.moment
  let opened := ({ r with source := source, moment := a.ended }).note a.opening
  if a.wasOpened then (a, (opened.moveTo .streaming).note a.streaming) else (a, opened)

/-- A report is counted. -/
def record (r : Run σ) (report : Report) : Run σ :=
  { r with total := r.total + report.messageCount, last := some report }

/-- A pause in the present state: either the run goes on, or it has come to its end. -/
def wait (frame : RunFrame) (delay : Duration) (r : Run σ) : Run σ ⊕ RunEnd × Run σ :=
  let shutdownFirst := frame.shutdownFirst r.log
  match pause shutdownFirst frame.shutDown frame.shutdownAt frame.limit r.moment delay with
  | .resumed m => .inl { r with moment := m }
  | .interrupted m => .inr (.finished, { r with moment := m }.note [.retriesAbandoned])
  | .unfinished m => .inr (.unfinished, { r with moment := m })

/-- The failures are forgotten. -/
def forgetFailures (r : Run σ) : Run σ :=
  { r with controller := { r.controller with failureCount := 0 } }

/-- The cool-down, if the failures call for one. -/
def coolDown (frame : RunFrame) (r : Run σ) : Run σ ⊕ RunEnd × Run σ :=
  if r.controller.needsCooldown then
    let cooling :=
      (r.note [.coolingDown r.controller.failures r.controller.policy.cooldown]).moveTo .cooldown
    match cooling.wait frame r.controller.policy.cooldown with
    | .inl resumed => .inl resumed.forgetFailures
    | .inr (.finished, stopped) => .inr (.finished, stopped.forgetFailures.conclude .done)
    | .inr other => .inr other
  else .inl r

/-- The pause after a failed attempt, and the cool-down. -/
def backOff (frame : RunFrame) (delay : Duration) (r : Run σ) : Run σ ⊕ RunEnd × Run σ :=
  let paused :=
    (r.note [.retrying r.controller.attempts r.controller.policy.maxRetries r.total delay]).moveTo
      .backoff
  match paused.wait frame delay with
  | .inl resumed => resumed.coolDown frame
  | .inr (.finished, stopped) => .inr (.finished, stopped.conclude .done)
  | .inr other => .inr other

/-- What follows a report: either the run goes on, or it has come to its end. -/
def follow (frame : RunFrame) (r : Run σ) (report : Report) : Run σ ⊕ RunEnd × Run σ :=
  if r.controller.overflows frame.overflow report.outcome then .inr (.overflowed, r)
  else
    let recorded := r.record report
    let (decision, controller) := recorded.controller.judge report.outcome
    let decided :=
      { recorded with controller := controller }.note
        (recorded.controller.judgeEvents report.outcome)
    match decision with
    | .stop final => .inr (.finished, decided.conclude final)
    | .retry delay => decided.backOff frame delay

/-- One attempt with what follows it: either the run goes on, or it has come to its end. -/
def cycle (frame : RunFrame) (next : AttemptSource σ) (r : Run σ) : Run σ ⊕ RunEnd × Run σ :=
  if r.refused frame then .inr (.overflowed, r.moveTo .connecting)
  else
    let (a, made) := (r.beginAttempt frame).makeAttempt next
    match a.finish, a.report? with
    | .unserviceable, _ => .inr (.unserviceable, made)
    | _, none => .inr (.unfinished, made)
    | _, some report => made.follow frame report

/-- At most `n` attempts. -/
def cycles (frame : RunFrame) (next : AttemptSource σ) : Nat → Run σ → RunEnd × Run σ
  | 0, r => (.unfinished, r)
  | n + 1, r =>
    match r.cycle frame next with
    | .inl r' => cycles frame next n r'
    | .inr ended => ended

/-- The next attempt, and those that the policy leaves after it. -/
def budget (c : Controller) : Nat :=
  c.policy.maxRetries.toNat - c.number + 1

/-- Runs a controller to the end. -/
def toEnd (frame : RunFrame) (next : AttemptSource σ) (c : Controller) (source : σ)
    (now : Moment) : RunEnd × Run σ :=
  cycles frame next (budget c) (start c source now)

/-- The summary of a run that is over. -/
def totals (r : Run σ) : RunTotals :=
  ⟨r.controller.state, r.controller.attempts, r.controller.failures, r.total, r.last⟩

end Run

end DuplexStream
