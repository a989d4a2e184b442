/-!
# Moments of the clock

At one tick the session, or the controller around it, acts first; then what happens around it:
requests made from outside and the timers of the peer. A `Moment` is a tick together with whether
the surroundings have already had their turn at it.
-/

namespace DuplexStream

/-- A tick, and whether the surroundings have acted at it. -/
structure Moment where
  tick : Nat
  settled : Bool
  deriving DecidableEq

namespace Moment

/-- The start of the clock. -/
def origin : Moment := ⟨0, false⟩

/-- Something that the surroundings do at a tick has happened. -/
def reached (m : Moment) (tick : Nat) : Bool :=
  decide (tick < m.tick) || (tick == m.tick && m.settled)

/-- Something that the surroundings do at a tick, if at all, has happened. -/
def reachedAny (m : Moment) : Option Nat → Bool
  | some tick => m.reached tick
  | none => false

end Moment

end DuplexStream
