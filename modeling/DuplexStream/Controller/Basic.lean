import DuplexStream.Controller.Policy
import DuplexStream.Session.Moment
import DuplexStream.Trace

/-!
# Deciding about retries

After each attempt the controller decides whether to stop or to pause and try again. It counts the
attempts, which a policy bounds, and the failures since the last cool-down, both in words of 32
bits. A pause waits for its timer, or for a shutdown that comes earlier.
-/

namespace DuplexStream

/-- What follows an attempt. -/
inductive FollowUp where
  | stop (final : Phase)
  | retry (delay : Duration)
  deriving DecidableEq

/-- What becomes of a count beyond its range: a build that checks it stops there, another one begins
again at zero. -/
inductive Overflow where
  | stops
  | wraps
  deriving DecidableEq

/-- A count cannot be raised any more. -/
def Overflow.refuses (overflow : Overflow) (count : UInt32) : Bool :=
  decide (overflow = .stops ∧ count + 1 = 0)

/-- No attempt follows such an outcome, and it is no failure. -/
def Outcome.isFinal : Outcome → Bool
  | .completed => true
  | .failed .intentionalCancel => true
  | .failed .localTaskCancelled => true
  | .failed _ => false

/-- A policy, the state, and the two counters. -/
structure Controller where
  policy : RetryPolicy
  state : Phase
  attemptCount : UInt32
  failureCount : UInt32
  deriving DecidableEq

namespace Controller

/-- The attempts that have been counted. -/
def attempts (c : Controller) : Nat :=
  c.attemptCount.toNat

/-- The failures that are remembered. -/
def failures (c : Controller) : Nat :=
  c.failureCount.toNat

/-- The number that the next attempt gets. -/
def number (c : Controller) : Nat :=
  (c.attemptCount + 1).toNat

/-- A controller before its first attempt. -/
def fresh (policy : RetryPolicy) : Controller :=
  ⟨policy, .idle, 0, 0⟩

/-- The pause after a failure of a kind: short when the connection is at fault. -/
def backoff (p : RetryPolicy) (kind : Failure) : Duration :=
  if kind.isConnection then p.transportBackoff else p.otherBackoff

/-- Counts a failure, and stops when the attempts are used up. -/
def judgeFailure (c : Controller) (kind : Failure) : FollowUp × Controller :=
  let c' := { c with failureCount := c.failureCount + 1 }
  if c.policy.maxRetries.toNat ≤ c.attempts then (.stop .failed, c')
  else (.retry (backoff c.policy kind), c')

/-- Decides what follows an outcome. What was asked for is no failure. -/
def judge (c : Controller) (outcome : Outcome) : FollowUp × Controller :=
  match outcome with
  | .completed => (.stop .done, { c with failureCount := 0 })
  | .failed .intentionalCancel => (.stop .done, c)
  | .failed .localTaskCancelled => (.stop .done, c)
  | .failed kind => c.judgeFailure kind

/-- The decision counts a failure that cannot be counted any more. -/
def overflows (overflow : Overflow) (c : Controller) (outcome : Outcome) : Bool :=
  !outcome.isFinal && overflow.refuses c.failureCount

/-- What is noted with a decision. -/
def judgeEvents (c : Controller) (outcome : Outcome) : List Event :=
  match (c.judge outcome).1, outcome with
  | .stop .failed, .failed kind => [.retriesExhausted c.attempts kind]
  | _, _ => []

/-- The controller in another state. -/
def moveTo (c : Controller) (target : Phase) : Controller :=
  { c with state := target }

/-- The failures call for a cool-down. -/
def needsCooldown (c : Controller) : Bool :=
  Nat.ble c.policy.cooldownThreshold.toNat c.failures

end Controller

/-- How a pause ends: its timer fired, a shutdown came first, or the clock reached its limit. -/
inductive Pause where
  | resumed (m : Moment)
  | interrupted (m : Moment)
  | unfinished (m : Moment)
  deriving DecidableEq

/-- A pause that begins at a moment. A timer without length fires at once. Where the timer and a
shutdown are there at one tick, either of them may be seen first. -/
def pause (shutdownFirst shutDown : Bool) (shutdownAt : Option Nat) (limit : Nat) (m : Moment)
    (delay : Duration) : Pause :=
  let wake := m.tick + delay.ticks
  let fired : Pause :=
    if delay.ticks = 0 then .resumed m
    else if wake ≤ limit then .resumed ⟨wake, false⟩
    else .unfinished ⟨limit, false⟩
  if shutDown || m.reachedAny shutdownAt then
    if delay.ticks = 0 ∧ shutdownFirst = false then .resumed m else .interrupted m
  else
    match shutdownAt with
    | some tick =>
      if (tick < wake ∨ (tick = wake ∧ shutdownFirst = true)) ∧ tick < limit then
        .interrupted ⟨tick, true⟩
      else fired
    | none => fired

end DuplexStream
