import DuplexStream.Binary64.Basic

/-!
# Spans of time

A `Duration` is a span as it is configured, counted in nanoseconds. The clock counts ticks of a
millisecond, so its moments, and the distances between them, are plain numbers. A timer never
fires early: a duration lasts the least number of ticks that covers it (`Duration.ticks`).
-/

namespace DuplexStream

/-- A span of time as configured, in nanoseconds. -/
structure Duration where
  nanos : Nat
  deriving DecidableEq

namespace Duration

/-- A second in nanoseconds. -/
def nanosPerSecond : Nat := 1000000000

/-- A tick of the clock in nanoseconds. -/
def nanosPerTick : Nat := 1000000

/-- Whole seconds and a number of nanoseconds, which may carry into the seconds. -/
def ofParts (seconds nanos : Nat) : Duration :=
  ⟨seconds * nanosPerSecond + nanos⟩

/-- Whole seconds. -/
def ofSeconds (n : Nat) : Duration := ofParts n 0

/-- Whole milliseconds. -/
def ofMillis (n : Nat) : Duration := ⟨n * nanosPerTick⟩

/-- The whole seconds of a span. -/
def seconds (d : Duration) : Nat := d.nanos / nanosPerSecond

/-- The nanoseconds beyond the whole seconds. -/
def subseconds (d : Duration) : Nat := d.nanos % nanosPerSecond

/-- The whole milliseconds of a span, as a 64-bit word. -/
def millis (d : Duration) : Nat := d.nanos / nanosPerTick % UInt64.size

/-- How long a timer of this span runs: the least number of ticks that covers it. -/
def ticks (d : Duration) : Nat :=
  d.nanos / nanosPerTick + (if d.nanos % nanosPerTick = 0 then 0 else 1)

/-- The span has no length. -/
def isZero (d : Duration) : Bool := d.nanos == 0

@[simp] theorem ticks_ofMillis (n : Nat) : (ofMillis n).ticks = n := by
  simp [ticks, ofMillis, nanosPerTick]

/-- The span nearest to a number of seconds, a tie between two nanoseconds going to the even one.
There is none for a negative number, an infinity, a NaN, or `2 ^ 64` seconds and more; negative
zero is no negative number. -/
def ofBinarySeconds? (x : Binary64) : Option Duration :=
  if !x.isFinite then none
  else if x.isNegative && x.magnitude != 0 then none
  else
    let n := (x.significand * nanosPerSecond) <<< x.exponentOffset
    let nanos := roundHalfEven n (1 <<< 1074)
    if nanos < UInt64.size * nanosPerSecond then some ⟨nanos⟩ else none

end Duration

end DuplexStream
