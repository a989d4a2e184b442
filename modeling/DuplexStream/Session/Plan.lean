import DuplexStream.Duration
import DuplexStream.Loss.Model

/-!
# What a session is told

Whether it acknowledges, when it cancels itself, how long its write loop waits, and how large its
channels are.
-/

namespace DuplexStream

/-- Whether data messages are acknowledged. -/
inductive AckMode where
  | plain
  | reliable (model : LossModel)
  deriving DecidableEq

/-- What one session is told. -/
structure SessionPlan where
  mode : AckMode
  cancelAfter : Option Duration
  writePoll : Duration
  channelBuffer : Nat
  deriving DecidableEq

namespace SessionPlan

/-- How long the write loop waits for an acknowledgement before it looks around. -/
def defaultWritePoll : Duration := .ofMillis 500

/-- How many messages a channel holds. -/
def defaultChannelBuffer : Nat := 100

/-- A session without acknowledgements and without a timer. -/
def plain : SessionPlan := ⟨.plain, none, defaultWritePoll, defaultChannelBuffer⟩

/-- The same session, cancelled on the first message after a number of seconds. -/
def cancelledAfter (p : SessionPlan) (seconds : Binary64) : Except InvalidSetting SessionPlan :=
  match Duration.ofBinarySeconds? seconds with
  | some delay => .ok { p with cancelAfter := some delay }
  | none => .error (.cancelAfter seconds)

/-- The settings of a session make sense. -/
def validate (p : SessionPlan) : Except InvalidSetting Unit :=
  if p.writePoll.isZero then .error (.zero .writePoll)
  else if p.channelBuffer = 0 then .error (.zero .channelBuffer)
  else
    match p.mode with
    | .plain => .ok ()
    | .reliable m => m.validate

end SessionPlan

end DuplexStream
