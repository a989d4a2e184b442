import DuplexStream.Controller.Phase
import DuplexStream.Duration
import DuplexStream.Mode
import DuplexStream.Outcome

/-!
# Traced events

Everything noteworthy is an `Event`, a typed value that carries what happened. How it is shown, by
a severity, a text and named details, is a function of the event.
-/

namespace DuplexStream

/-- How much an event matters. -/
inductive Severity where
  | debug
  | info
  | warn
  deriving DecidableEq

/-- The name of a severity. -/
def Severity.name : Severity → String
  | .debug => "DEBUG"
  | .info => "INFO"
  | .warn => "WARN"

/-- A named detail of an event. -/
inductive Detail where
  | number (n : Nat)
  | text (s : String)
  deriving DecidableEq

/-- Something noteworthy. -/
inductive Event where
  | opening (attempt : Nat) (server : String)
  | ignoredEnvelope (attempt : Nat)
  | received (attempt : Nat) (id : UInt64) (payload : String)
  | redelivered (id : UInt64)
  | simulatedDrop (id : UInt64)
  | queuedAck (attempt : Nat) (id : UInt64)
  | writerStopped (attempt : Nat) (id : UInt64)
  | autoCancelled (attempt : Nat) (elapsed : Nat) (delay : Option Duration)
  | sentAck (attempt : Nat) (id : UInt64)
  | outboundFull (attempt : Nat) (id : UInt64)
  | outboundClosed (attempt : Nat)
  | writeLoopFinished (attempt : Nat) (sent : Nat)
  | ended (attempt : Nat) (count : Nat) (outcome : Outcome) (detail : Option String)
  | stateChanged (source target : Phase)
  | connecting (attempt : Nat) (maxRetries : UInt32) (server : String)
  | retriesExhausted (attempts : Nat) (last : Failure)
  | retrying (attempt : Nat) (maxRetries : UInt32) (total : Nat) (delay : Duration)
  | retriesAbandoned
  | coolingDown (failures : Nat) (cooldown : Duration)
  | runFinished (final : Phase) (attempts : Nat) (total : Nat)
  | clientStarted (mode : Mode) (server : String) (wire : Wire)
  | autoCancelArmed (delay : Option Duration)
  | clientFinished (final : Phase) (attempts : Nat) (total : Nat)
  | summary (report : Report)
  deriving DecidableEq

namespace Event

/-- How much an ending matters: one that was asked for is no warning. -/
def endSeverity : Outcome → Severity
  | .completed => .info
  | .failed .intentionalCancel => .info
  | .failed .localTaskCancelled => .info
  | .failed _ => .warn

/-- How much an event matters. -/
def severity : Event → Severity
  | opening .. => .debug
  | ignoredEnvelope .. => .debug
  | received .. => .info
  | redelivered .. => .debug
  | simulatedDrop .. => .info
  | queuedAck .. => .debug
  | writerStopped .. => .warn
  | autoCancelled .. => .info
  | sentAck .. => .info
  | outboundFull .. => .debug
  | outboundClosed .. => .warn
  | writeLoopFinished .. => .debug
  | ended _ _ outcome _ => endSeverity outcome
  | stateChanged .. => .debug
  | connecting .. => .info
  | retriesExhausted .. => .warn
  | retrying .. => .info
  | retriesAbandoned => .info
  | coolingDown .. => .warn
  | runFinished .. => .info
  | clientStarted .. => .info
  | autoCancelArmed .. => .info
  | clientFinished .. => .info
  | summary .. => .info

/-- The text of an ending. -/
def endText : Outcome → String
  | .completed => "stream ended normally"
  | .failed .intentionalCancel => "stream cancelled by client"
  | .failed .cancelled => "stream cancelled without a local cancel (externally observed)"
  | .failed .localTaskCancelled => "session task cancelled"
  | .failed _ => "stream failed"

/-- The text of an event. -/
def text : Event → String
  | opening .. => "opening bidirectional stream"
  | ignoredEnvelope .. => "ignoring envelope without data"
  | received .. => "received message"
  | redelivered .. => "redelivered message, not acknowledging again"
  | simulatedDrop .. => "simulating drop"
  | queuedAck .. => "queued ack"
  | writerStopped .. => "ack writer stopped, no further acks this session"
  | autoCancelled .. => "auto-cancel triggered, cancelling stream"
  | sentAck .. => "sent ack"
  | outboundFull .. => "outbound stream full at session end"
  | outboundClosed .. => "outbound stream closed, stopping writer"
  | writeLoopFinished .. => "write loop finished"
  | ended _ _ outcome _ => endText outcome
  | stateChanged .. => "controller state"
  | connecting .. => "connection attempt"
  | retriesExhausted .. => "max retries reached"
  | retrying .. => "retrying after backoff"
  | retriesAbandoned => "shutdown requested, abandoning retries"
  | coolingDown .. => "too many consecutive failures, cooling down"
  | runFinished .. => "run finished"
  | clientStarted .. => "starting streaming client"
  | autoCancelArmed .. => "auto-cancel armed"
  | clientFinished .. => "client finished"
  | summary .. => "session summary"

/-- The attempt of an event inside a session. -/
def attemptDetail (attempt : Nat) : String × Detail :=
  ("attempt", .number attempt)

/-- The message of an event. -/
def idDetail (id : UInt64) : String × Detail :=
  ("message_id", .number id.toNat)

/-- A delay, if there is one. -/
def delayDetail (delay : Option Duration) : List (String × Detail) :=
  match delay with
  | some d => [("delay_ms", .number d.millis)]
  | none => []

/-- How an ending is detailed: only what nobody asked for is explained. -/
def endDetails (outcome : Outcome) (detail : Option String) : List (String × Detail) :=
  match outcome with
  | .completed => []
  | .failed .intentionalCancel => []
  | .failed .localTaskCancelled => []
  | .failed .cancelled => [("detail", .text (detail.getD ""))]
  | .failed kind => [("kind", .text kind.name), ("detail", .text (detail.getD ""))]

/-- The details of the end of a run. -/
def runDetails (final : Phase) (attempts total : Nat) : List (String × Detail) :=
  [("final_state", .text final.name), ("attempts", .number attempts),
    ("total_messages", .number total)]

/-- The named details of an event. -/
def details : Event → List (String × Detail)
  | opening attempt server => [attemptDetail attempt, ("server", .text server)]
  | ignoredEnvelope attempt => [attemptDetail attempt]
  | received attempt id payload =>
    [attemptDetail attempt, idDetail id, ("payload", .text payload)]
  | redelivered id => [idDetail id]
  | simulatedDrop id => [idDetail id]
  | queuedAck attempt id => [attemptDetail attempt, idDetail id]
  | writerStopped attempt id => [attemptDetail attempt, idDetail id]
  | autoCancelled attempt elapsed delay =>
    [attemptDetail attempt, ("elapsed_ms", .number elapsed)] ++ delayDetail delay
  | sentAck attempt id => [attemptDetail attempt, idDetail id]
  | outboundFull attempt id => [attemptDetail attempt, idDetail id]
  | outboundClosed attempt =>
    [attemptDetail attempt, ("error", .text StreamError.closed.message)]
  | writeLoopFinished attempt sent => [attemptDetail attempt, ("sent", .number sent)]
  | ended attempt count outcome detail =>
    [attemptDetail attempt, ("message_count", .number count)] ++ endDetails outcome detail
  | stateChanged source target => [("from", .text source.name), ("to", .text target.name)]
  | connecting attempt maxRetries server =>
    [attemptDetail attempt, ("max_retries", .number maxRetries.toNat), ("server", .text server)]
  | retriesExhausted attempts last =>
    [("attempts", .number attempts), ("last_error", .text last.name)]
  | retrying attempt maxRetries total delay =>
    [attemptDetail attempt, ("max_retries", .number maxRetries.toNat),
      ("total_messages", .number total), ("delay_ms", .number delay.millis)]
  | retriesAbandoned => []
  | coolingDown failures cooldown =>
    [("consecutive_failures", .number failures), ("cooldown_ms", .number cooldown.millis)]
  | runFinished final attempts total => runDetails final attempts total
  | clientStarted mode server wire =>
    [("mode", .text mode.name), ("server", .text server), ("wire", .text wire.name)]
  | autoCancelArmed delay => delayDetail delay
  | clientFinished final attempts total => runDetails final attempts total
  | summary r =>
    [attemptDetail r.attempt, ("outcome", .text r.outcome.name),
      ("message_count", .number r.messageCount), ("acks_sent", .number r.acksSent),
      ("drops", .number r.drops), ("duplicates", .number r.duplicates),
      ("elapsed_ms", .number r.elapsed)]

end Event

end DuplexStream
