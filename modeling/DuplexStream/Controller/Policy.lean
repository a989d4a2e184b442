import DuplexStream.Duration
import DuplexStream.InvalidSetting

/-!
# Policies of retrying

How often a failed call is tried again, after which pauses, and when a longer pause is due.
-/

namespace DuplexStream

/-- How often a failed call is tried again, and after which pauses. -/
structure RetryPolicy where
  maxRetries : UInt32
  transportBackoff : Duration
  otherBackoff : Duration
  cooldownThreshold : UInt32
  cooldown : Duration
  deriving DecidableEq

namespace RetryPolicy

/-- The policy when nothing is said. -/
def default : RetryPolicy :=
  { maxRetries := 50
    transportBackoff := .ofSeconds 1
    otherBackoff := .ofSeconds 2
    cooldownThreshold := 5
    cooldown := .ofSeconds 5 }

/-- The settings of a policy make sense. -/
def validate (p : RetryPolicy) : Except InvalidSetting Unit :=
  if p.maxRetries = 0 then .error (.zero .maxRetries)
  else if p.cooldownThreshold = 0 then .error (.zero .cooldownThreshold)
  else .ok ()

theorem validate_eq_ok_iff {p : RetryPolicy} :
    p.validate = .ok () ↔ p.maxRetries ≠ 0 ∧ p.cooldownThreshold ≠ 0 := by
  simp only [validate]
  split
  · simp_all
  · split <;> simp_all

end RetryPolicy

end DuplexStream
