/-!
# UTF-8

`encode` writes characters as bytes. Reading goes byte by byte through a `Partial` character: the
bits gathered so far and the ranges that the following bytes must fall into. `decode?` reads
well-formed bytes only. `decodeLossy` reads any bytes: each longest start of a character that is
not continued becomes one replacement character.
-/

namespace DuplexStream.Text.Utf8

/-- The continuation byte that holds six bits. -/
def continuation (sixBits : Nat) : UInt8 :=
  UInt8.ofNat (0x80 + sixBits % 64)

/-- The bytes of one character: one to four, by the size of its code point. -/
def encodeChar (c : Char) : List UInt8 :=
  let n := c.toNat
  if n < 0x80 then [UInt8.ofNat n]
  else if n < 0x800 then [UInt8.ofNat (0xC0 + n / 64), continuation n]
  else if n < 0x10000 then
    [UInt8.ofNat (0xE0 + n / 4096), continuation (n / 64), continuation n]
  else
    [UInt8.ofNat (0xF0 + n / 262144), continuation (n / 4096), continuation (n / 64),
      continuation n]

/-- The bytes of a list of characters. -/
def encode (cs : List Char) : List UInt8 :=
  cs.flatMap encodeChar

/-- An inclusive range of bytes. -/
structure ByteRange where
  low : Nat
  high : Nat

/-- The byte lies in the range. -/
def ByteRange.contains (r : ByteRange) (b : UInt8) : Bool :=
  decide (r.low ≤ b.toNat ∧ b.toNat ≤ r.high)

/-- Every continuation byte. -/
def anyContinuation : ByteRange := ⟨0x80, 0xBF⟩

/-- A character whose first bytes have been read: the bits so far and the ranges of the bytes that
are still to come. -/
structure Partial where
  bits : Nat
  first : ByteRange
  more : List ByteRange

/-- What one more byte does to the reading. -/
inductive Feed where
  | complete (c : Char)
  | needs (p : Partial)
  | broken

/-- The first byte of a character. The ranges exclude code points written too long, surrogates
and what lies beyond the last code point. -/
def lead (b : UInt8) : Feed :=
  let n := b.toNat
  let tail := anyContinuation
  if n < 0x80 then .complete (Char.ofNat n)
  else if n < 0xC2 then .broken
  else if n < 0xE0 then .needs ⟨n - 0xC0, tail, []⟩
  else if n = 0xE0 then .needs ⟨0, ⟨0xA0, 0xBF⟩, [tail]⟩
  else if n = 0xED then .needs ⟨0xD, ⟨0x80, 0x9F⟩, [tail]⟩
  else if n < 0xF0 then .needs ⟨n - 0xE0, tail, [tail]⟩
  else if n = 0xF0 then .needs ⟨0, ⟨0x90, 0xBF⟩, [tail, tail]⟩
  else if n < 0xF4 then .needs ⟨n - 0xF0, tail, [tail, tail]⟩
  else if n = 0xF4 then .needs ⟨4, ⟨0x80, 0x8F⟩, [tail, tail]⟩
  else .broken

/-- A further byte of a character. -/
def Partial.feed (p : Partial) (b : UInt8) : Feed :=
  if p.first.contains b then
    let bits := p.bits * 64 + b.toNat % 64
    match p.more with
    | [] => .complete (Char.ofNat bits)
    | r :: rs => .needs ⟨bits, r, rs⟩
  else .broken

/-- The next byte, in the middle of a character or at the start of one. -/
def feed : Option Partial → UInt8 → Feed
  | none, b => lead b
  | some p, b => p.feed b

/-- Reads well-formed bytes that continue a partial character. -/
def decodeFrom : Option Partial → List UInt8 → Option (List Char)
  | none, [] => some []
  | some _, [] => none
  | p, b :: bs =>
    match feed p b with
    | .complete c => (decodeFrom none bs).map (c :: ·)
    | .needs q => decodeFrom (some q) bs
    | .broken => none

/-- The characters of well-formed bytes. -/
def decode? (bs : List UInt8) : Option (List Char) :=
  decodeFrom none bs

/-- Bytes that are the UTF-8 form of some text. -/
def IsValid (bs : List UInt8) : Prop :=
  (decode? bs).isSome

instance (bs : List UInt8) : Decidable (IsValid bs) :=
  inferInstanceAs (Decidable ((decode? bs).isSome = true))

/-- The character that stands for bytes that are no character. -/
def replacement : Char := Char.ofNat 0xFFFD

/-- Reads any bytes that continue a partial character. A byte that does not continue it ends it
with a replacement character and is read again as a first byte. -/
def decodeLossyFrom : Option Partial → List UInt8 → List Char
  | none, [] => []
  | some _, [] => [replacement]
  | none, b :: bs =>
    match lead b with
    | .complete c => c :: decodeLossyFrom none bs
    | .needs q => decodeLossyFrom (some q) bs
    | .broken => replacement :: decodeLossyFrom none bs
  | some p, b :: bs =>
    match p.feed b with
    | .complete c => c :: decodeLossyFrom none bs
    | .needs q => decodeLossyFrom (some q) bs
    | .broken =>
      match lead b with
      | .complete c => replacement :: c :: decodeLossyFrom none bs
      | .needs q => replacement :: decodeLossyFrom (some q) bs
      | .broken => replacement :: replacement :: decodeLossyFrom none bs

/-- The characters of any bytes, with replacements for what is not well-formed. -/
def decodeLossy (bs : List UInt8) : List Char :=
  decodeLossyFrom none bs

/-- The bytes of a text. -/
def bytesOf (s : String) : List UInt8 :=
  encode s.toList

/-- The text of well-formed bytes. -/
def text? (bs : List UInt8) : Option String :=
  (decode? bs).map String.ofList

/-- The text of any bytes, with replacements for what is not well-formed. -/
def textLossy (bs : List UInt8) : String :=
  String.ofList (decodeLossy bs)

end DuplexStream.Text.Utf8
