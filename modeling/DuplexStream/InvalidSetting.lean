import DuplexStream.Binary64.Decimal

/-!
# Settings that are refused

Each setting that can be wrong has a check. Checks run in a fixed order, and the first complaint is
the answer.
-/

namespace DuplexStream

/-- A setting that must not be zero. -/
inductive Counted where
  | writePoll
  | channelBuffer
  | maxRetries
  | cooldownThreshold
  deriving DecidableEq

/-- How a setting is called in a complaint. -/
def Counted.name : Counted → String
  | .writePoll => "write poll interval"
  | .channelBuffer => "channel buffer"
  | .maxRetries => "max retries"
  | .cooldownThreshold => "cooldown threshold"

/-- Why a setting is refused. -/
inductive InvalidSetting where
  | dropProbability (p : Binary64)
  | zero (setting : Counted)
  | cancelAfter (seconds : Binary64)
  | unknownWire (name : String)
  deriving DecidableEq

/-- The complaint in words. -/
def InvalidSetting.message : InvalidSetting → String
  | .dropProbability p => "drop probability must be within [0, 1], got " ++ p.render
  | .zero setting => setting.name ++ " must be greater than zero"
  | .cancelAfter s =>
    "auto-cancel delay must be a finite, non-negative number of seconds, got " ++ s.render
  | .unknownWire name => "unknown wire '" ++ name ++ "', expected envelope or framed"

end DuplexStream
