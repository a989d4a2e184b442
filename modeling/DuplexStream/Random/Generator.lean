/-!
# Sources of draws

A generator gives one 64-bit draw after the other. `Progression` is the simplest one: each draw is
the one before plus a fixed increment.
-/

namespace DuplexStream

/-- A source of 64-bit draws. -/
class Generator (γ : Type) where
  /-- The next draw, and the source after it. -/
  draw : γ → UInt64 × γ

/-- The upper fifty-three bits of a draw. -/
def upperBits (u : UInt64) : Nat :=
  (u >>> 11).toNat

/-- Draws in arithmetic progression, modulo `2 ^ 64`. -/
structure Progression where
  next : UInt64
  increment : UInt64
  deriving DecidableEq

instance : Generator Progression where
  draw g := (g.next, { g with next := g.next + g.increment })

end DuplexStream
