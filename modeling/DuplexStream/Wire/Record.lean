/-!
# Records

The bytes of a message are a sequence of numbered fields. A field is a key, which holds the field
number and the kind of the value, and then the value: a varint, four or eight bytes, or a length
and as many bytes. A group is a start key, fields, and an end key with the same number; its
contents are read over.

`readFields` reads a whole record. `Field.encode` writes a field that is not a group.
-/

namespace DuplexStream.Record

/-- The bytes of a number below `128 ^ n`, seven bits a byte, the low ones first. Every byte but the
last has its high bit set. -/
def varintGroups : Nat → Nat → List UInt8
  | 0, _ => []
  | n + 1, v =>
    if v < 128 then [UInt8.ofNat v] else UInt8.ofNat (v % 128 + 128) :: varintGroups n (v / 128)

/-- A 64-bit number as a varint. Ten groups of seven bits are enough. -/
def varint (v : UInt64) : List UInt8 :=
  varintGroups 10 v.toNat

/-- Reads a varint of at most `n` bytes. Of a tenth byte only the lowest bit still fits 64 bits. -/
def readVarintGroups : Nat → List UInt8 → Option (Nat × List UInt8)
  | 0, _ => none
  | _ + 1, [] => none
  | n + 1, b :: bs =>
    if b.toNat < 128 then
      if n = 0 ∧ 2 ≤ b.toNat then none else some (b.toNat, bs)
    else
      match readVarintGroups n bs with
      | some (v, rest) => some (b.toNat - 128 + 128 * v, rest)
      | none => none

/-- Reads a varint and gives what follows it. -/
def readVarint (bs : List UInt8) : Option (Nat × List UInt8) :=
  readVarintGroups 10 bs

theorem length_of_readVarintGroups {n : Nat} {bs rest : List UInt8} {v : Nat}
    (h : readVarintGroups n bs = some (v, rest)) : rest.length < bs.length := by
  induction n generalizing bs v with
  | zero => simp [readVarintGroups] at h
  | succ n ih =>
    cases bs with
    | nil => simp [readVarintGroups] at h
    | cons b bs =>
      simp only [readVarintGroups] at h
      split at h
      · split at h
        · simp at h
        · simp only [Option.some.injEq, Prod.mk.injEq] at h
          simp [h.2]
      · split at h
        · rename_i hr
          simp only [Option.some.injEq, Prod.mk.injEq] at h
          obtain ⟨_, rfl⟩ := h
          exact Nat.lt_succ_of_lt (ih hr)
        · simp at h

theorem length_of_readVarint {bs rest : List UInt8} {v : Nat}
    (h : readVarint bs = some (v, rest)) : rest.length < bs.length :=
  length_of_readVarintGroups h

/-- How the value of a field is laid out. -/
inductive Layout where
  | varint
  | eightBytes
  | block
  | groupStart
  | groupEnd
  | fourBytes
  deriving DecidableEq

/-- The number of a layout in a key. -/
def Layout.code : Layout → Nat
  | .varint => 0
  | .eightBytes => 1
  | .block => 2
  | .groupStart => 3
  | .groupEnd => 4
  | .fourBytes => 5

/-- The layout with a number. -/
def Layout.ofCode? : Nat → Option Layout
  | 0 => some .varint
  | 1 => some .eightBytes
  | 2 => some .block
  | 3 => some .groupStart
  | 4 => some .groupEnd
  | 5 => some .fourBytes
  | _ => none

/-- What stands before a value. -/
structure Key where
  number : Nat
  layout : Layout

/-- The bytes of a key. -/
def Key.encode (k : Key) : List UInt8 :=
  varint (UInt64.ofNat (k.number * 8 + k.layout.code))

/-- Reads a key. It fits 32 bits and its field number is not zero. -/
def readKey (bs : List UInt8) : Option (Key × List UInt8) :=
  match readVarint bs with
  | none => none
  | some (v, rest) =>
    if UInt32.size ≤ v ∨ v / 8 = 0 then none
    else
      match Layout.ofCode? (v % 8) with
      | some layout => some (⟨v / 8, layout⟩, rest)
      | none => none

theorem length_of_readKey {bs rest : List UInt8} {k : Key} (h : readKey bs = some (k, rest)) :
    rest.length < bs.length := by
  simp only [readKey] at h
  split at h
  · simp at h
  · rename_i hv
    split at h
    · simp at h
    · split at h
      · simp only [Option.some.injEq, Prod.mk.injEq] at h
        exact h.2 ▸ length_of_readVarint hv
      · simp at h

/-- Splits off the first `n` bytes, if there are as many. -/
def takeBytes (n : Nat) (bs : List UInt8) : Option (List UInt8 × List UInt8) :=
  if n ≤ bs.length then some (bs.take n, bs.drop n) else none

theorem length_of_takeBytes {n : Nat} {bs taken rest : List UInt8}
    (h : takeBytes n bs = some (taken, rest)) : rest.length ≤ bs.length := by
  simp only [takeBytes] at h
  split at h
  · simp only [Option.some.injEq, Prod.mk.injEq] at h
    simp [← h.2]
  · simp at h

/-- The value of a field. Nothing of a group is kept. -/
inductive Value where
  | word (v : UInt64)
  | eightBytes (bytes : List UInt8)
  | block (bytes : List UInt8)
  | fourBytes (bytes : List UInt8)
  | group
  deriving DecidableEq

/-- A numbered field. -/
structure Field where
  number : Nat
  value : Value
  deriving DecidableEq

/-- Reads a value that is not a group. -/
def readPlain (layout : Layout) (bs : List UInt8) : Option (Value × List UInt8) :=
  match layout with
  | .varint =>
    match readVarint bs with
    | some (v, rest) => some (.word (UInt64.ofNat v), rest)
    | none => none
  | .eightBytes =>
    match takeBytes 8 bs with
    | some (taken, rest) => some (.eightBytes taken, rest)
    | none => none
  | .block =>
    match readVarint bs with
    | some (n, rest) =>
      match takeBytes n rest with
      | some (taken, rest') => some (.block taken, rest')
      | none => none
    | none => none
  | .fourBytes =>
    match takeBytes 4 bs with
    | some (taken, rest) => some (.fourBytes taken, rest)
    | none => none
  | .groupStart => none
  | .groupEnd => none

theorem length_of_readPlain {layout : Layout} {bs rest : List UInt8} {v : Value}
    (h : readPlain layout bs = some (v, rest)) : rest.length ≤ bs.length := by
  cases layout with
  | varint =>
    simp only [readPlain] at h
    split at h
    · rename_i hv
      simp only [Option.some.injEq, Prod.mk.injEq] at h
      exact h.2 ▸ Nat.le_of_lt (length_of_readVarint hv)
    · simp at h
  | eightBytes | fourBytes =>
    simp only [readPlain] at h
    split at h
    · rename_i ht
      simp only [Option.some.injEq, Prod.mk.injEq] at h
      exact h.2 ▸ length_of_takeBytes ht
    · simp at h
  | block =>
    simp only [readPlain] at h
    split at h
    · rename_i hv
      split at h
      · rename_i ht
        simp only [Option.some.injEq, Prod.mk.injEq] at h
        exact h.2 ▸ Nat.le_trans (length_of_takeBytes ht) (Nat.le_of_lt (length_of_readVarint hv))
      · simp at h
    · simp at h
  | groupStart => simp [readPlain] at h
  | groupEnd => simp [readPlain] at h

/-- Reads over the rest of the groups that are open, the innermost first, and gives what follows
the outermost. Inside `depth` open groups no field is read any more. -/
def closeGroups (depth : Nat) (opened : List Nat) (bs : List UInt8) : Option (List UInt8) :=
  match opened with
  | [] => some bs
  | number :: outer =>
    match h : readKey bs with
    | none => none
    | some (key, rest) =>
      have := length_of_readKey h
      match key.layout with
      | .groupEnd => if key.number = number then closeGroups depth outer rest else none
      | .groupStart =>
        if (number :: outer).length < depth then
          closeGroups depth (key.number :: number :: outer) rest
        else none
      | layout =>
        if (number :: outer).length < depth then
          match h' : readPlain layout rest with
          | some (_, rest') =>
            have := length_of_readPlain h'
            closeGroups depth (number :: outer) rest'
          | none => none
        else none
termination_by bs.length

theorem length_of_closeGroups {depth : Nat} {opened : List Nat} {bs rest : List UInt8}
    (h : closeGroups depth opened bs = some rest) : rest.length ≤ bs.length := by
  fun_induction closeGroups depth opened bs with
  | case1 => simp_all
  | case2 => simp at h
  | case3 _ _ _ _ _ shorter _ ih => exact Nat.le_trans (ih h) (Nat.le_of_lt shorter)
  | case4 => simp at h
  | case5 _ _ _ _ _ _ shorter _ _ ih => exact Nat.le_trans (ih h) (Nat.le_of_lt shorter)
  | case6 => simp at h
  | case7 _ _ _ _ _ _ shorter _ _ _ _ _ _ noLonger ih =>
    exact Nat.le_trans (ih h) (Nat.le_trans noLonger (Nat.le_of_lt shorter))
  | case8 => simp at h
  | case9 => simp at h

/-- Reads one field and gives what follows it. Groups may nest up to `depth`. -/
def readField (depth : Nat) (bs : List UInt8) : Option (Field × List UInt8) :=
  match readKey bs with
  | none => none
  | some (key, rest) =>
    match key.layout with
    | .groupStart =>
      match closeGroups depth [key.number] rest with
      | some rest' => some (⟨key.number, .group⟩, rest')
      | none => none
    | layout =>
      match readPlain layout rest with
      | some (v, rest') => some (⟨key.number, v⟩, rest')
      | none => none

theorem length_of_readField {depth : Nat} {bs rest : List UInt8} {f : Field}
    (h : readField depth bs = some (f, rest)) : rest.length < bs.length := by
  simp only [readField] at h
  split at h
  · simp at h
  · rename_i hk
    have hlen := length_of_readKey hk
    split at h
    · split at h
      · rename_i hc
        simp only [Option.some.injEq, Prod.mk.injEq] at h
        have := length_of_closeGroups hc
        rw [h.2] at this
        omega
      · simp at h
    · split at h
      · rename_i hp
        simp only [Option.some.injEq, Prod.mk.injEq] at h
        have := length_of_readPlain hp
        rw [h.2] at this
        omega
      · simp at h

/-- Reads the fields of a whole record. -/
def readFields (depth : Nat) (bs : List UInt8) : Option (List Field) :=
  match bs with
  | [] => some []
  | b :: bs' =>
    match h : readField depth (b :: bs') with
    | none => none
    | some (f, rest) =>
      have _shorter : rest.length ≤ bs'.length := Nat.le_of_lt_succ (length_of_readField h)
      match readFields depth rest with
      | some fs => some (f :: fs)
      | none => none
termination_by bs.length

/-- The layout of a value. -/
def Value.layout : Value → Layout
  | .word _ => .varint
  | .eightBytes _ => .eightBytes
  | .block _ => .block
  | .fourBytes _ => .fourBytes
  | .group => .groupStart

/-- The bytes of a value that is not a group. A group is written as one without fields, up to its
end key. -/
def Value.encode : Value → List UInt8
  | .word v => varint v
  | .eightBytes bytes => bytes
  | .block bytes => varint (UInt64.ofNat bytes.length) ++ bytes
  | .fourBytes bytes => bytes
  | .group => []

/-- The bytes of a field. -/
def Field.encode (f : Field) : List UInt8 :=
  let body := Key.encode ⟨f.number, f.value.layout⟩ ++ f.value.encode
  match f.value with
  | .group => body ++ Key.encode ⟨f.number, .groupEnd⟩
  | _ => body

/-- The bytes of a record. -/
def encodeFields (fs : List Field) : List UInt8 :=
  fs.flatMap Field.encode

end DuplexStream.Record
