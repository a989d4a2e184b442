import DuplexStream.Binary64.Basic
import DuplexStream.Random.Generator

/-!
# Acknowledging with simulated loss

A `Layer` decides what happens to each delivered id. The first delivery takes one draw and is
dropped or acknowledged; every later delivery of the id is a duplicate, takes no draw and gets no
acknowledgement.
-/

namespace DuplexStream

/-- What became of a delivery. -/
inductive Verdict where
  | acknowledged
  | dropped
  | redelivered
  deriving DecidableEq

/-- How many deliveries had each verdict. -/
structure Tally where
  acked : Nat
  dropped : Nat
  duplicates : Nat
  deriving DecidableEq

/-- No delivery yet. -/
def Tally.zero : Tally := ⟨0, 0, 0⟩

/-- The decisions of one session: the probability of a loss, the source of draws, and the ids that
have been decided, the latest first. -/
structure Layer (γ : Type) where
  probability : Binary64
  generator : γ
  acked : List UInt64
  dropped : List UInt64
  tally : Tally

namespace Layer

variable {γ : Type}

/-- A layer without deliveries. The probability is forced into the range from zero to one. -/
def start (probability : Binary64) (generator : γ) : Layer γ :=
  ⟨probability.clampUnit, generator, [], [], .zero⟩

/-- The id has been acknowledged. -/
def hasAcked (l : Layer γ) (id : UInt64) : Bool :=
  l.acked.contains id

/-- The id has been acknowledged or dropped. -/
def isDecided (l : Layer γ) (id : UInt64) : Bool :=
  l.acked.contains id || l.dropped.contains id

/-- Delivers an id. -/
def deliver [Generator γ] (l : Layer γ) (id : UInt64) : Verdict × Layer γ :=
  if l.isDecided id then
    (.redelivered, { l with tally := { l.tally with duplicates := l.tally.duplicates + 1 } })
  else
    let (u, generator) := Generator.draw l.generator
    if Binary64.unitBelow (upperBits u) l.probability then
      (.dropped, { l with
        generator := generator
        dropped := id :: l.dropped
        tally := { l.tally with dropped := l.tally.dropped + 1 } })
    else
      (.acknowledged, { l with
        generator := generator
        acked := id :: l.acked
        tally := { l.tally with acked := l.tally.acked + 1 } })

/-- Delivers ids in order, giving the ids that are acknowledged on the way. -/
def deliverAll [Generator γ] (l : Layer γ) : List UInt64 → List UInt64 × Layer γ
  | [] => ([], l)
  | id :: ids =>
    let (verdict, l') := l.deliver id
    let (acks, last) := l'.deliverAll ids
    (if verdict = .acknowledged then id :: acks else acks, last)

end Layer

end DuplexStream
