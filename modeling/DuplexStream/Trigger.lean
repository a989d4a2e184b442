import DuplexStream.Duration

/-!
# The auto-cancel trigger

A trigger fires at most once, at the first observation that is not earlier than its delay. Without
a delay it never fires.
-/

namespace DuplexStream

/-- A delay, and whether it has run out under observation. -/
structure Trigger where
  delay : Option Duration
  fired : Bool
  deriving DecidableEq

namespace Trigger

/-- A trigger that has not been observed. -/
def ofDelay (delay : Option Duration) : Trigger :=
  ⟨delay, false⟩

/-- The trigger fires when so much time has passed. -/
def fires (t : Trigger) (elapsed : Duration) : Bool :=
  match t.delay with
  | some d => !t.fired && decide (d.nanos ≤ elapsed.nanos)
  | none => false

/-- Observes that so much time has passed. -/
def observe (t : Trigger) (elapsed : Duration) : Bool × Trigger :=
  if t.fires elapsed then (true, { t with fired := true }) else (false, t)

end Trigger

end DuplexStream
