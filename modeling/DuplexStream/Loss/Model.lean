import DuplexStream.InvalidSetting
import DuplexStream.Loss.Layer
import DuplexStream.Random.Seeded

/-!
# How acknowledgements are lost

A `LossModel` says with which probability a message is not acknowledged, and from which seed the
draws start.
-/

namespace DuplexStream

/-- How acknowledgements are lost: with which probability, and from which seed. -/
structure LossModel where
  dropProbability : Binary64
  seed : Option UInt64
  deriving DecidableEq

namespace LossModel

/-- One acknowledgement in ten is lost unless something else is said. -/
def defaultDropProbability : Binary64 := ⟨0x3FB999999999999A⟩

/-- The model when nothing is said. -/
def default : LossModel := ⟨defaultDropProbability, none⟩

/-- The probability is a probability. -/
def validate (m : LossModel) : Except InvalidSetting Unit :=
  if m.dropProbability.isUnit then .ok () else .error (.dropProbability m.dropProbability)

/-- An unseeded model with a checked probability. -/
def ofProbability (p : Binary64) : Except InvalidSetting LossModel :=
  match validate ⟨p, none⟩ with
  | .ok _ => .ok ⟨p, none⟩
  | .error e => .error e

/-- The generator of an attempt: every attempt has a seed of its own, the number of the attempt
above the configured one. Without a configured seed it has a key of its own. -/
def generator (m : LossModel) (entropy : Entropy) (attempt : Nat) : Seeded :=
  match m.seed with
  | some seed => .ofSeed (seed + UInt64.ofNat attempt)
  | none => .ofEntropy entropy attempt

/-- The layer of an attempt. -/
def layer (m : LossModel) (entropy : Entropy) (attempt : Nat) : Layer Seeded :=
  .start m.dropProbability (m.generator entropy attempt)

end LossModel

end DuplexStream
