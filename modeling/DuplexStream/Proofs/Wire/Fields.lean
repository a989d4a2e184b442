import DuplexStream.Wire.Encoding
import Mathlib.Algebra.GroupWithZero.Nat
import Mathlib.Data.List.Basic

/-!
# Reading the parts of a record

Numbers of 64 bits, keys and values may be spelt in more than one way, since a varint may end in
groups of zeros: `IsVarint`, `IsKey` and `IsValue` say which bytes stand for them, and each is read
from any of these bytes, whatever follows. What is written is one of the spellings, so fields that
can be written (`Record.Field.Writable`) are read back, and whole records of them.
-/

namespace DuplexStream.Record

section Numbers

/-- The bytes are groups of seven bits of a number, the low ones first. The last ones may be
zero. -/
inductive Groups : List UInt8 → Nat → Prop
  | last {b : UInt8} (low : b.toNat < 128) : Groups [b] b.toNat
  | more {b : UInt8} {bs : List UInt8} {v : Nat} (high : 128 ≤ b.toNat) (others : Groups bs v) :
      Groups (b :: bs) (b.toNat - 128 + 128 * v)

/-- The bytes are a varint: at most ten groups of a number of 64 bits. -/
structure IsVarint (bs : List UInt8) (v : Nat) : Prop where
  groups : Groups bs v
  short : bs.length ≤ 10
  fits : v < UInt64.size

variable {bs : List UInt8} {v : Nat}

theorem Groups.ne_nil (groups : Groups bs v) : bs ≠ [] := by
  cases groups <;> exact List.cons_ne_nil _ _

/-- Groups are read if there are not too many of them and the number fits what `n + 1` groups have
room for when the last of them has a single bit. -/
theorem Groups.read (groups : Groups bs v) {n : Nat} (short : bs.length ≤ n + 1)
    (fits : v < 2 * 128 ^ n) (rest : List UInt8) :
    readVarintGroups (n + 1) (bs ++ rest) = some (v, rest) := by
  induction groups generalizing n with
  | @last b low =>
      have room : ¬ (n = 0 ∧ 2 ≤ b.toNat) := by
        rintro ⟨rfl, large⟩
        omega
      rw [List.singleton_append, readVarintGroups, if_pos low, if_neg room]
  | @more b bs v high others ih =>
      obtain ⟨m, rfl⟩ : ∃ m, n = m + 1 := by
        have := List.length_pos_iff.mpr others.ne_nil
        rw [List.length_cons] at short
        exact ⟨n - 1, by omega⟩
      have read := ih (n := m) (by simpa using short) (by rw [Nat.pow_succ] at fits; omega)
      rw [List.cons_append, readVarintGroups, if_neg (by omega)]
      simp only [read]

theorem IsVarint.read (varint : IsVarint bs v) (rest : List UInt8) :
    readVarint (bs ++ rest) = some (v, rest) :=
  varint.groups.read varint.short varint.fits rest

/-- A number of at most `7 * (n + 1)` bits is written in groups. -/
theorem groups_varintGroups {n v : Nat} (fits : v < 128 ^ (n + 1)) :
    Groups (varintGroups (n + 1) v) v := by
  have last {v : Nat} (low : v < 128) : Groups [UInt8.ofNat v] v := by
    have byte : (UInt8.ofNat v).toNat = v := by
      rw [UInt8.toNat_ofNat']
      omega
    simpa only [byte] using Groups.last (b := UInt8.ofNat v) (by omega)
  induction n generalizing v with
  | zero =>
      rw [varintGroups, if_pos (by omega)]
      exact last (by omega)
  | succ n ih =>
      rw [varintGroups]
      split
      · exact last ‹_›
      · have byte : (UInt8.ofNat (v % 128 + 128)).toNat = v % 128 + 128 := by
          rw [UInt8.toNat_ofNat']
          omega
        have others := ih (v := v / 128) (by rw [Nat.pow_succ] at fits; omega)
        have whole : v % 128 + 128 - 128 + 128 * (v / 128) = v := by omega
        simpa only [byte, whole] using
          Groups.more (b := UInt8.ofNat (v % 128 + 128)) (by omega) others

theorem length_varint_le (v : UInt64) : (varint v).length ≤ 10 := by
  have groups (n v : Nat) : (varintGroups n v).length ≤ n := by
    induction n generalizing v with
    | zero => exact Nat.le_refl 0
    | succ n ih =>
        rw [varintGroups]
        split
        · exact Nat.le_add_left 1 n
        · exact Nat.succ_le_succ (ih _)
  exact groups 10 v.toNat

/-- What is written is one of the spellings of a number. -/
theorem isVarint_varint (v : UInt64) : IsVarint (varint v) v.toNat :=
  ⟨groups_varintGroups (Nat.lt_trans v.toNat_lt (by decide)), length_varint_le v, v.toNat_lt⟩

/-- A length is written if it is a number of 64 bits. -/
theorem isVarint_length {n : Nat} (fits : n < UInt64.size) :
    IsVarint (varint (UInt64.ofNat n)) n := by
  simpa only [UInt64.toNat_ofNat_of_lt' fits] using isVarint_varint (UInt64.ofNat n)

theorem varint_ne_nil (v : UInt64) : varint v ≠ [] :=
  (isVarint_varint v).groups.ne_nil

end Numbers

section Keys

@[simp] theorem Layout.ofCode?_code (layout : Layout) :
    Layout.ofCode? layout.code = some layout := by
  cases layout <;> rfl

theorem Layout.code_lt (layout : Layout) : layout.code < 8 := by
  cases layout <;> decide

/-- A number that fits the 32 bits of a key, three of which are the layout. -/
def IsFieldNumber (number : Nat) : Prop :=
  1 ≤ number ∧ number < 2 ^ 29

instance (number : Nat) : Decidable (IsFieldNumber number) :=
  inferInstanceAs (Decidable (1 ≤ number ∧ number < 2 ^ 29))

/-- The bytes are a key. -/
structure IsKey (bs : List UInt8) (k : Key) : Prop where
  number : IsFieldNumber k.number
  varint : IsVarint bs (k.number * 8 + k.layout.code)

variable {bs : List UInt8} {k : Key}

theorem IsKey.read (key : IsKey bs k) (rest : List UInt8) :
    readKey (bs ++ rest) = some (k, rest) := by
  obtain ⟨positive, small⟩ := key.number
  have code := k.layout.code_lt
  have number : (k.number * 8 + k.layout.code) / 8 = k.number := by omega
  have layout : (k.number * 8 + k.layout.code) % 8 = k.layout.code := by omega
  have inRange : ¬ (UInt32.size ≤ k.number * 8 + k.layout.code ∨ k.number = 0) := by
    simp only [UInt32.size]
    omega
  simp only [readKey, key.varint.read, number, layout, if_neg inRange, Layout.ofCode?_code]

theorem IsKey.ne_nil (key : IsKey bs k) : bs ≠ [] :=
  key.varint.groups.ne_nil

theorem isKey_encode (fits : IsFieldNumber k.number) : IsKey k.encode k := by
  have small : k.number < 2 ^ 29 := fits.2
  have code := k.layout.code_lt
  refine ⟨fits, isVarint_length ?_⟩
  simp only [UInt64.size]
  omega

end Keys

/-- The bytes are a value that is no group. -/
inductive IsValue : List UInt8 → Value → Prop
  | word {bs : List UInt8} {v : UInt64} (varint : IsVarint bs v.toNat) : IsValue bs (.word v)
  | eightBytes {bs : List UInt8} (length : bs.length = 8) : IsValue bs (.eightBytes bs)
  | block {length bs : List UInt8} (varint : IsVarint length bs.length) :
      IsValue (length ++ bs) (.block bs)
  | fourBytes {bs : List UInt8} (length : bs.length = 4) : IsValue bs (.fourBytes bs)

/-- A value that can be written: its length is what the layout says, or can be said itself. -/
def Value.Writable : Value → Prop
  | .word _ => True
  | .eightBytes bytes => bytes.length = 8
  | .block bytes => bytes.length < UInt64.size
  | .fourBytes bytes => bytes.length = 4
  | .group => True

/-- A field that can be written. -/
structure Field.Writable (f : Field) : Prop where
  number : IsFieldNumber f.number
  value : f.value.Writable

section Values

variable {bs : List UInt8} {v : Value}

theorem takeBytes_append {n : Nat} {bytes : List UInt8} (length : bytes.length = n)
    (bs : List UInt8) : takeBytes n (bytes ++ bs) = some (bytes, bs) := by
  subst length
  rw [takeBytes, if_pos (by rw [List.length_append]; exact Nat.le_add_right _ _), List.take_left,
    List.drop_left]

theorem IsValue.read (value : IsValue bs v) (rest : List UInt8) :
    readPlain v.layout (bs ++ rest) = some (v, rest) := by
  cases value with
  | word varint =>
      simp only [Value.layout, readPlain, varint.read, UInt64.ofNat_toNat]
  | eightBytes length =>
      simp only [Value.layout, readPlain, takeBytes_append length]
  | block varint =>
      simp only [Value.layout, List.append_assoc, readPlain, varint.read, takeBytes_append rfl]
  | fourBytes length =>
      simp only [Value.layout, readPlain, takeBytes_append length]

theorem IsValue.layout_ne (value : IsValue bs v) : v.layout ≠ .groupStart := by
  cases value <;> simp [Value.layout]

theorem isValue_encode (writable : v.Writable) (plain : v ≠ .group) : IsValue v.encode v := by
  cases v with
  | word v => exact .word (isVarint_varint v)
  | eightBytes bytes => exact .eightBytes writable
  | block bytes => exact .block (isVarint_length writable)
  | fourBytes bytes => exact .fourBytes writable
  | group => exact absurd rfl plain

end Values

section Fields

variable {bs rest rest' : List UInt8} {depth : Nat}

theorem readField_of_plain {k : Key} {v : Value} (depth : Nat)
    (key : readKey bs = some (k, rest)) (plain : k.layout ≠ .groupStart)
    (value : readPlain k.layout rest = some (v, rest')) :
    readField depth bs = some (⟨k.number, v⟩, rest') := by
  obtain ⟨number, layout⟩ := k
  cases layout with
  | groupStart => exact absurd rfl plain
  | groupEnd => simp [readPlain] at value
  | varint => simp only [readField, key, value]
  | eightBytes => simp only [readField, key, value]
  | block => simp only [readField, key, value]
  | fourBytes => simp only [readField, key, value]

/-- The end key of the innermost group closes it. -/
theorem closeGroups_of_end {number : Nat} {outer : List Nat}
    (key : readKey bs = some (⟨number, .groupEnd⟩, rest)) :
    closeGroups depth (number :: outer) bs = closeGroups depth outer rest := by
  rw [closeGroups]
  split
  · simp_all
  · rename_i found
    rw [key, Option.some.injEq, Prod.mk.injEq] at found
    obtain ⟨rfl, rfl⟩ := found
    exact if_pos rfl

/-- A field is read back, whatever follows it. -/
theorem readField_encode {f : Field} (writable : f.Writable) (depth : Nat) (bs : List UInt8) :
    readField depth (f.encode ++ bs) = some (f, bs) := by
  obtain ⟨number, value⟩ := f
  have key (layout : Layout) : IsKey (Key.encode ⟨number, layout⟩) ⟨number, layout⟩ :=
    isKey_encode writable.number
  by_cases grouped : value = .group
  · subst grouped
    have closed : closeGroups depth [number] (Key.encode ⟨number, .groupEnd⟩ ++ bs) = some bs := by
      rw [closeGroups_of_end ((key .groupEnd).read bs), closeGroups]
    simp only [Field.encode, Value.layout, Value.encode, List.append_nil, List.append_assoc,
      readField, (key .groupStart).read, closed]
  · have isValue := isValue_encode writable.value grouped
    have written : Field.encode ⟨number, value⟩ =
        Key.encode ⟨number, value.layout⟩ ++ value.encode := by
      cases value with
      | group => exact absurd rfl grouped
      | _ => rfl
    rw [written, List.append_assoc]
    exact readField_of_plain depth ((key value.layout).read _) isValue.layout_ne (isValue.read bs)

theorem Field.encode_ne_nil (f : Field) : f.encode ≠ [] := by
  obtain ⟨number, value⟩ := f
  have key (layout : Layout) : Key.encode ⟨number, layout⟩ ≠ [] := varint_ne_nil _
  cases value <;> simp [encode, key]

theorem readFields_of_readField {f : Field} (read : readField depth bs = some (f, rest)) :
    readFields depth bs = (readFields depth rest).map (f :: ·) := by
  cases bs with
  | nil => simp [readField, readKey, readVarint, readVarintGroups] at read
  | cons b bs =>
      rw [readFields]
      split
      · simp_all
      · rename_i found
        rw [read, Option.some.injEq, Prod.mk.injEq] at found
        obtain ⟨rfl, rfl⟩ := found
        cases readFields depth rest <;> rfl

theorem readFields_of_unread (nonempty : bs ≠ []) (unread : readField depth bs = none) :
    readFields depth bs = none := by
  cases bs with
  | nil => exact absurd rfl nonempty
  | cons b bs =>
      rw [readFields]
      split
      · rfl
      · simp_all

/-- Fields that can be written are read back in front of what follows them. -/
theorem readFields_encodeFields {fs : List Field} (writable : ∀ f ∈ fs, f.Writable) (depth : Nat)
    (bs : List UInt8) :
    readFields depth (encodeFields fs ++ bs) = (readFields depth bs).map (fs ++ ·) := by
  induction fs with
  | nil => simp [encodeFields]
  | cons f fs ih =>
      obtain ⟨first, others⟩ := List.forall_mem_cons.mp writable
      have split : encodeFields (f :: fs) ++ bs = f.encode ++ (encodeFields fs ++ bs) := by
        rw [← List.append_assoc]
        rfl
      rw [split, readFields_of_readField (readField_encode first depth _), ih others,
        Option.map_map]
      rfl

end Fields

end DuplexStream.Record
