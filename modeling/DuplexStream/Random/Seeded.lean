import DuplexStream.Random.ChaCha
import DuplexStream.Random.Generator

/-!
# The seeded generator

A 64-bit seed is spread over the eight words of a ChaCha key. The draws are the key stream, two
words to a draw, the low word first. Without a seed the key itself comes from outside, a new one
each time.
-/

namespace DuplexStream

/-- A key stream and how many draws have been taken from it. -/
structure Seeded where
  key : ChaCha.Key
  position : Nat
  deriving DecidableEq

/-- What comes from outside for those who have no seed: a whole key for each of them, by its
number. -/
structure Entropy where
  key : Nat → ChaCha.Key

instance : Zero Entropy := ⟨⟨fun _ => ⟨⟨0, 0, 0, 0⟩, ⟨0, 0, 0, 0⟩⟩⟩⟩

namespace Seeded

/-- One step of the linear congruence that spreads a seed. -/
def spread (state : UInt64) : UInt64 :=
  state * 6364136223846793005 + 11634580027462260723

/-- The word that a state of the congruence gives: its upper bits, folded and turned right. -/
def scramble (state : UInt64) : UInt32 :=
  let x := (((state >>> 18) ^^^ state) >>> 27).toUInt32
  let n := (state >>> 59).toUInt32
  (x >>> n) ||| (x <<< ((32 - n) % 32))

/-- Four words, and the state after them. -/
def spreadRow (state : UInt64) : ChaCha.Row × UInt64 :=
  let s1 := spread state
  let s2 := spread s1
  let s3 := spread s2
  let s4 := spread s3
  (⟨scramble s1, scramble s2, scramble s3, scramble s4⟩, s4)

/-- The generator with a seed. -/
def ofSeed (seed : UInt64) : Seeded :=
  let (low, state) := spreadRow seed
  let (high, _) := spreadRow state
  ⟨⟨low, high⟩, 0⟩

/-- A generator without a seed. -/
def ofEntropy (entropy : Entropy) (number : Nat) : Seeded :=
  ⟨entropy.key number, 0⟩

/-- The draw at a position. -/
def drawAt (g : Seeded) (n : Nat) : UInt64 :=
  let low := ChaCha.word g.key (2 * n)
  let high := ChaCha.word g.key (2 * n + 1)
  low.toUInt64 ||| (high.toUInt64 <<< 32)

instance : Generator Seeded where
  draw g := (g.drawAt g.position, { g with position := g.position + 1 })

end Seeded

end DuplexStream
