/-!
# ChaCha blocks

The block function of ChaCha with twelve rounds, a 64-bit block counter and no nonce. A state is
four rows of four words. A round mixes the columns, all four at once; turning the rows by zero,
one, two and three places lines the diagonals up as columns for the next round.
-/

namespace DuplexStream.ChaCha

/-- Four words side by side. -/
structure Row where
  w0 : UInt32
  w1 : UInt32
  w2 : UInt32
  w3 : UInt32
  deriving DecidableEq

namespace Row

/-- Two rows word by word. -/
def zip (f : UInt32 → UInt32 → UInt32) (r s : Row) : Row :=
  ⟨f r.w0 s.w0, f r.w1 s.w1, f r.w2 s.w2, f r.w3 s.w3⟩

/-- Every word with its bits turned left by `n` places, for `n` from 1 to 31. -/
def rotate (n : UInt32) (r : Row) : Row :=
  let turn (w : UInt32) : UInt32 := (w <<< n) ||| (w >>> (32 - n))
  ⟨turn r.w0, turn r.w1, turn r.w2, turn r.w3⟩

/-- The words moved one place to the left. -/
def turn (r : Row) : Row :=
  ⟨r.w1, r.w2, r.w3, r.w0⟩

/-- The words from left to right. -/
def toList (r : Row) : List UInt32 :=
  [r.w0, r.w1, r.w2, r.w3]

end Row

/-- Sixteen words in four rows. -/
structure State where
  a : Row
  b : Row
  c : Row
  d : Row
  deriving DecidableEq

namespace State

/-- Half of a quarter round on every column. -/
def mix (m n : UInt32) (s : State) : State :=
  let a := s.a.zip (· + ·) s.b
  let d := (s.d.zip (· ^^^ ·) a).rotate m
  let c := s.c.zip (· + ·) d
  let b := (s.b.zip (· ^^^ ·) c).rotate n
  ⟨a, b, c, d⟩

/-- A round on the columns. -/
def round (s : State) : State :=
  (s.mix 16 12).mix 8 7

/-- The diagonals as columns. -/
def slant (s : State) : State :=
  ⟨s.a, s.b.turn, s.c.turn.turn, s.d.turn.turn.turn⟩

/-- The columns as diagonals, the inverse of `slant`. -/
def unslant (s : State) : State :=
  ⟨s.a, s.b.turn.turn.turn, s.c.turn.turn, s.d.turn⟩

@[simp] theorem unslant_slant (s : State) : s.slant.unslant = s := rfl

/-- A round on the columns and one on the diagonals. -/
def doubleRound (s : State) : State :=
  s.round.slant.round.unslant

/-- `n` double rounds. -/
def rounds : Nat → State → State
  | 0, s => s
  | n + 1, s => rounds n s.doubleRound

/-- Two states word by word. -/
def add (s t : State) : State :=
  ⟨s.a.zip (· + ·) t.a, s.b.zip (· + ·) t.b, s.c.zip (· + ·) t.c, s.d.zip (· + ·) t.d⟩

/-- The words row by row. -/
def toList (s : State) : List UInt32 :=
  s.a.toList ++ s.b.toList ++ s.c.toList ++ s.d.toList

end State

/-- A key of eight words. -/
structure Key where
  low : Row
  high : Row
  deriving DecidableEq

/-- The state a block starts from: four fixed words, the key, and the number of the block. -/
def start (key : Key) (block : Nat) : State :=
  { a := ⟨0x61707865, 0x3320646e, 0x79622d32, 0x6b206574⟩
    b := key.low
    c := key.high
    d := ⟨UInt32.ofNat block, UInt32.ofNat (block / UInt32.size), 0, 0⟩ }

/-- A block of sixteen words: the start state after twelve rounds, added to the start state. -/
def block (key : Key) (n : Nat) : State :=
  ((start key n).rounds 6).add (start key n)

/-- A word of the key stream. -/
def word (key : Key) (n : Nat) : UInt32 :=
  ((block key (n / 16)).toList)[n % 16]?.getD 0

end DuplexStream.ChaCha
