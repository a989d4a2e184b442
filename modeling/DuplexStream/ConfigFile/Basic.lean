import DuplexStream.Controller.Policy
import DuplexStream.Session.Plan

/-!
# The configuration file

A configuration file has three sections, and every key in them has a default. `ConfigFile.validate`
refuses values that no session could use; a file that passes it never makes the settings of a run
fail by itself.
-/

namespace DuplexStream

/-- How often to try, and the pauses between the attempts in milliseconds. -/
@[ext] structure RetryValues where
  maxRetries : UInt32
  transportBackoff : UInt64
  otherBackoff : UInt64
  cooldownThreshold : UInt32
  cooldown : UInt64
  deriving DecidableEq

/-- What a session is told. The write poll is in milliseconds. -/
@[ext] structure SessionValues where
  dropProbability : Binary64
  writePoll : UInt64
  channelBuffer : UInt64
  seed : Option UInt64
  deriving DecidableEq

/-- How to connect. The time limit is in milliseconds. -/
@[ext] structure ConnectionValues where
  timeLimit : UInt64
  keepAlive : Bool
  deriving DecidableEq

/-- What a configuration file says. -/
@[ext] structure ConfigFile where
  reconnect : RetryValues
  session : SessionValues
  channel : ConnectionValues
  deriving DecidableEq

/-- The section when nothing is said. -/
def RetryValues.default : RetryValues :=
  { maxRetries := 50
    transportBackoff := 1000
    otherBackoff := 2000
    cooldownThreshold := 5
    cooldown := 5000 }

/-- The section when nothing is said. -/
def SessionValues.default : SessionValues :=
  { dropProbability := LossModel.defaultDropProbability
    writePoll := 500
    channelBuffer := 100
    seed := none }

/-- The section when nothing is said. -/
def ConnectionValues.default : ConnectionValues := ⟨30000, true⟩

/-- The policy that the section describes. -/
def RetryValues.policy (s : RetryValues) : RetryPolicy :=
  { maxRetries := s.maxRetries
    transportBackoff := .ofMillis s.transportBackoff.toNat
    otherBackoff := .ofMillis s.otherBackoff.toNat
    cooldownThreshold := s.cooldownThreshold
    cooldown := .ofMillis s.cooldown.toNat }

/-- Why the text of a configuration file is refused. -/
inductive ConfigFileError where
  | malformed
  | dropProbability (p : Binary64)
  | zeroWritePoll
  | zeroChannelBuffer
  | policy (e : InvalidSetting)
  deriving DecidableEq

/-- The complaint in words. -/
def ConfigFileError.message : ConfigFileError → String
  | .malformed => "failed to parse config"
  | .dropProbability p => "session.drop_probability must be within [0, 1], got " ++ p.render
  | .zeroWritePoll => "session.write_poll_ms must be greater than zero"
  | .zeroChannelBuffer => "session.channel_buffer must be greater than zero"
  | .policy e => e.message

namespace ConfigFile

/-- The file when nothing is said. -/
def default : ConfigFile := ⟨.default, .default, .default⟩

/-- The values can be used. -/
def validate (c : ConfigFile) : Except ConfigFileError Unit :=
  if !c.session.dropProbability.isUnit then .error (.dropProbability c.session.dropProbability)
  else if c.session.writePoll = 0 then .error .zeroWritePoll
  else if c.session.channelBuffer = 0 then .error .zeroChannelBuffer
  else
    match c.reconnect.policy.validate with
    | .ok _ => .ok ()
    | .error e => .error (.policy e)

theorem validate_eq_ok_iff {c : ConfigFile} :
    c.validate = .ok () ↔ c.session.dropProbability.isUnit = true ∧ c.session.writePoll ≠ 0 ∧
      c.session.channelBuffer ≠ 0 ∧ c.reconnect.policy.validate = .ok () := by
  simp only [validate]
  split
  · simp_all
  · split
    · simp_all
    · split
      · simp_all
      · cases c.reconnect.policy.validate <;> simp_all

end ConfigFile

end DuplexStream
