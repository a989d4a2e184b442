import DuplexStream.Proofs.Text.Utf8
import DuplexStream.Proofs.Wire.Fields
import DuplexStream.Wire.Decoding

/-!
# Messages are read back from their bytes

A field that has its default is not written, and a message starts with all defaults when it is read,
so absorbing the fields that were written gives the message again. The variant of an envelope is
always written, with a length in front, which is why an envelope around a default message is not
taken for the empty one.
-/

namespace DuplexStream

/-- Bytes that can be held in memory, where a distance is a signed word. -/
def Addressable (bytes : List UInt8) : Prop :=
  bytes.length < 2 ^ 63

instance (bytes : List UInt8) : Decidable (Addressable bytes) :=
  inferInstanceAs (Decidable (bytes.length < 2 ^ 63))

namespace Record

section Absorbing

variable {α : Type} {absorb : α → Field → Option α} {m m' : α} {number : Nat}

theorem absorbAll_append (fs gs : List Field) :
    absorbAll absorb m (fs ++ gs) =
      (absorbAll absorb m fs).bind fun m' => absorbAll absorb m' gs := by
  induction fs generalizing m with
  | nil => rfl
  | cons f fs ih =>
      simp only [List.cons_append, absorbAll]
      cases absorb m f with
      | none => rfl
      | some m' => exact ih

/-- Fields that are passed over leave a message as it is. -/
theorem absorbAll_of_passed {fs : List Field} (passed : ∀ f ∈ fs, absorb m f = some m) :
    absorbAll absorb m fs = some m := by
  induction fs with
  | nil => rfl
  | cons f fs ih =>
      obtain ⟨first, others⟩ := List.forall_mem_cons.mp passed
      simp only [absorbAll, first, ih others]

/-- Reading the bytes of fields that can be written is absorbing these fields. -/
theorem absorbBytes_encodeFields {fs : List Field} (writable : ∀ f ∈ fs, f.Writable)
    (depth : Nat) : absorbBytes absorb depth m (encodeFields fs) = absorbAll absorb m fs := by
  have read := readFields_encodeFields writable depth []
  simp only [List.append_nil, readFields, Option.map_some] at read
  simp only [absorbBytes, read]

/-- A number that is zero is not written, so what was there before stays. -/
theorem absorbAll_wordField {v : UInt64} (absorbs : v ≠ 0 → absorb m ⟨number, .word v⟩ = some m')
    (default : v = 0 → m = m') : absorbAll absorb m (wordField number v) = some m' := by
  by_cases zero : v = 0
  · rw [wordField, if_pos zero, absorbAll, default zero]
  · simp only [wordField, if_neg zero, absorbAll, absorbs zero]

/-- A block that is empty is not written, so what was there before stays. -/
theorem absorbAll_blockField {bytes : List UInt8}
    (absorbs : bytes ≠ [] → absorb m ⟨number, .block bytes⟩ = some m')
    (default : bytes = [] → m = m') : absorbAll absorb m (blockField number bytes) = some m' := by
  by_cases empty : bytes = []
  · rw [blockField, if_pos (List.isEmpty_iff.mpr empty), absorbAll, default empty]
  · simp only [blockField, List.isEmpty_iff, if_neg empty, absorbAll, absorbs empty]

end Absorbing

section Writing

variable {number : Nat}

theorem writable_wordField (fits : IsFieldNumber number) (v : UInt64) :
    ∀ f ∈ wordField number v, f.Writable := by
  intro f mem
  obtain ⟨_, rfl⟩ : v ≠ 0 ∧ f = ⟨number, .word v⟩ := by simpa [wordField] using mem
  exact ⟨fits, trivial⟩

theorem writable_blockField (fits : IsFieldNumber number) {bytes : List UInt8}
    (short : bytes.length < UInt64.size) : ∀ f ∈ blockField number bytes, f.Writable := by
  intro f mem
  obtain ⟨_, rfl⟩ : bytes ≠ [] ∧ f = ⟨number, .block bytes⟩ := by simpa [blockField] using mem
  exact ⟨fits, short⟩

/-- A flag is written as the number one. -/
theorem flagField_eq (number : Nat) (flag : Bool) :
    flagField number flag = wordField number (if flag then 1 else 0) := by
  cases flag <;> rfl

theorem length_key_le (k : Key) : k.encode.length ≤ 10 :=
  length_varint_le _

theorem length_wordField_le (number : Nat) (v : UInt64) :
    (encodeFields (wordField number v)).length ≤ 20 := by
  rw [wordField]
  split
  · exact Nat.zero_le _
  · have key := length_key_le ⟨number, .varint⟩
    have word := length_varint_le v
    simp only [encodeFields, List.flatMap_singleton, Field.encode, Value.layout, Value.encode,
      List.length_append]
    omega

theorem length_blockField_le (number : Nat) (bytes : List UInt8) :
    (encodeFields (blockField number bytes)).length ≤ bytes.length + 20 := by
  rw [blockField]
  split
  · exact Nat.zero_le _
  · have key := length_key_le ⟨number, .block⟩
    have length := length_varint_le (UInt64.ofNat bytes.length)
    simp only [encodeFields, List.flatMap_singleton, Field.encode, Value.layout, Value.encode,
      List.length_append]
    omega

theorem encodeFields_append (fs gs : List Field) :
    encodeFields (fs ++ gs) = encodeFields fs ++ encodeFields gs :=
  List.flatMap_append

end Writing

end Record

open Record

namespace Message

variable {m : Message}

theorem writable_fields (fits : Addressable m.payload) : ∀ f ∈ m.fields, f.Writable := by
  have short : m.payload.length < UInt64.size := Nat.lt_trans fits (by decide)
  simp only [fields, flagField_eq, List.forall_mem_append]
  exact ⟨⟨⟨writable_wordField (by decide) _, writable_wordField (by decide) _⟩,
    writable_blockField (by decide) short⟩, writable_wordField (by decide) _⟩

/-- A data message with another one laid over it: each field is that of the other message, unless it
has its default there. -/
def overlay (m n : Message) : Message where
  id := if n.id = 0 then m.id else n.id
  timestamp := if n.timestamp = 0 then m.timestamp else n.timestamp
  payload := if n.payload = [] then m.payload else n.payload
  needsAck := if n.needsAck = false then m.needsAck else n.needsAck

@[simp] theorem default_overlay (m : Message) : overlay .default m = m := by
  obtain ⟨id, timestamp, payload, needsAck⟩ := m
  simp only [overlay, default, mk.injEq]
  refine ⟨?_, ?_, ?_, ?_⟩ <;> split <;> simp_all

/-- The fields of a message are absorbed by laying it over. -/
theorem absorbAll_fields (m n : Message) :
    absorbAll Message.absorb m n.fields = some (m.overlay n) := by
  obtain ⟨id₀, timestamp₀, payload₀, flag₀⟩ := m
  obtain ⟨id₁, timestamp₁, payload₁, flag₁⟩ := n
  have id : absorbAll Message.absorb ⟨id₀, timestamp₀, payload₀, flag₀⟩ (wordField 1 id₁) =
      some ⟨if id₁ = 0 then id₀ else id₁, timestamp₀, payload₀, flag₀⟩ := by
    apply absorbAll_wordField
    · intro written
      rw [if_neg written]
      rfl
    · intro zero
      rw [if_pos zero]
  have timestamp (id₂ : UInt64) :
      absorbAll Message.absorb ⟨id₂, timestamp₀, payload₀, flag₀⟩ (wordField 2 timestamp₁) =
        some ⟨id₂, if timestamp₁ = 0 then timestamp₀ else timestamp₁, payload₀, flag₀⟩ := by
    apply absorbAll_wordField
    · intro written
      rw [if_neg written]
      rfl
    · intro zero
      rw [if_pos zero]
  have payload (id₂ timestamp₂ : UInt64) :
      absorbAll Message.absorb ⟨id₂, timestamp₂, payload₀, flag₀⟩ (blockField 3 payload₁) =
        some ⟨id₂, timestamp₂, if payload₁ = [] then payload₀ else payload₁, flag₀⟩ := by
    apply absorbAll_blockField
    · intro written
      rw [if_neg written]
      rfl
    · intro empty
      rw [if_pos empty]
  have needsAck (id₂ timestamp₂ : UInt64) (payload₂ : List UInt8) :
      absorbAll Message.absorb ⟨id₂, timestamp₂, payload₂, flag₀⟩ (flagField 4 flag₁) =
        some ⟨id₂, timestamp₂, payload₂, if flag₁ = false then flag₀ else flag₁⟩ := by
    cases flag₁ <;> rfl
  simp only [fields, absorbAll_append, id, timestamp, payload, needsAck, Option.bind_some, overlay]

/-- The bytes of a message are laid over what has been read before. -/
theorem absorbBytes_overlay {n : Message} (fits : Addressable n.payload) (depth : Nat)
    (m : Message) : absorbBytes Message.absorb depth m n.encode = some (m.overlay n) := by
  rw [encode, absorbBytes_encodeFields (writable_fields fits), absorbAll_fields]

/-- A message is read back from its bytes, alone or inside an envelope. -/
theorem absorbBytes_encode (fits : Addressable m.payload) (depth : Nat) :
    absorbBytes Message.absorb depth .default m.encode = some m := by
  rw [absorbBytes_overlay fits, default_overlay]

theorem length_encode_lt (fits : Addressable m.payload) : m.encode.length < UInt64.size := by
  have id := length_wordField_le 1 m.id
  have timestamp := length_wordField_le 2 m.timestamp
  have payload := length_blockField_le 3 m.payload
  have flag := length_wordField_le 4 (if m.needsAck then 1 else 0)
  simp only [Addressable] at fits
  simp only [encode, fields, flagField_eq, encodeFields_append, List.length_append, UInt64.size]
  omega

end Message

namespace Ack

/-- An acknowledgement with another one laid over it. -/
def overlay (a b : Ack) : Ack where
  ackId := if b.ackId = 0 then a.ackId else b.ackId
  timestamp := if b.timestamp = 0 then a.timestamp else b.timestamp

@[simp] theorem default_overlay (a : Ack) : overlay .default a = a := by
  obtain ⟨ackId, timestamp⟩ := a
  simp only [overlay, default, mk.injEq]
  refine ⟨?_, ?_⟩ <;> split <;> simp_all

/-- The fields of an acknowledgement are absorbed by laying it over. -/
theorem absorbAll_fields (a b : Ack) : absorbAll Ack.absorb a b.fields = some (a.overlay b) := by
  obtain ⟨id₀, timestamp₀⟩ := a
  obtain ⟨id₁, timestamp₁⟩ := b
  have ackId : absorbAll Ack.absorb ⟨id₀, timestamp₀⟩ (wordField 1 id₁) =
      some ⟨if id₁ = 0 then id₀ else id₁, timestamp₀⟩ := by
    apply absorbAll_wordField
    · intro written
      rw [if_neg written]
      rfl
    · intro zero
      rw [if_pos zero]
  have timestamp (id₂ : UInt64) :
      absorbAll Ack.absorb ⟨id₂, timestamp₀⟩ (wordField 2 timestamp₁) =
        some ⟨id₂, if timestamp₁ = 0 then timestamp₀ else timestamp₁⟩ := by
    apply absorbAll_wordField
    · intro written
      rw [if_neg written]
      rfl
    · intro zero
      rw [if_pos zero]
  simp only [fields, absorbAll_append, ackId, timestamp, Option.bind_some, overlay]

/-- The bytes of an acknowledgement are laid over what has been read before. -/
theorem absorbBytes_overlay (b : Ack) (depth : Nat) (a : Ack) :
    absorbBytes Ack.absorb depth a b.encode = some (a.overlay b) := by
  have writable : ∀ f ∈ b.fields, f.Writable := by
    simp only [fields, List.forall_mem_append]
    exact ⟨writable_wordField (by decide) _, writable_wordField (by decide) _⟩
  rw [encode, absorbBytes_encodeFields writable, absorbAll_fields]

/-- An acknowledgement is read back from its bytes, alone or inside an envelope. -/
theorem absorbBytes_encode (a : Ack) (depth : Nat) :
    absorbBytes Ack.absorb depth .default a.encode = some a := by
  rw [absorbBytes_overlay, default_overlay]

theorem length_encode_lt (a : Ack) : a.encode.length < UInt64.size := by
  have ackId := length_wordField_le 1 a.ackId
  have timestamp := length_wordField_le 2 a.timestamp
  simp only [encode, fields, encodeFields_append, List.length_append, UInt64.size]
  omega

end Ack

namespace Frame

theorem absorbAll_fields (f : Frame) : absorbAll Frame.absorb .default f.fields = some f := by
  have id : absorbAll Frame.absorb .default (wordField 1 f.id) = some ⟨f.id, 0, ""⟩ := by
    apply absorbAll_wordField
    · exact fun _ => rfl
    · intro zero
      rw [zero]
      rfl
  have timestamp : absorbAll Frame.absorb ⟨f.id, 0, ""⟩ (wordField 2 f.timestamp) =
      some ⟨f.id, f.timestamp, ""⟩ := by
    apply absorbAll_wordField
    · exact fun _ => rfl
    · intro zero
      rw [zero]
  have payload : absorbAll Frame.absorb ⟨f.id, f.timestamp, ""⟩
      (blockField 3 (Text.Utf8.bytesOf f.payload)) = some f := by
    have text := Text.Utf8.text?_bytesOf f.payload
    apply absorbAll_blockField
    · intro _
      simp only [Frame.absorb, Value.text?, Value.block?, text, Option.map_some]
    · intro empty
      rw [empty] at text
      obtain ⟨_, _, payload⟩ := f
      exact congrArg (Frame.mk _ _) (Option.some.inj text)
  simp only [fields, absorbAll_append, id, timestamp, payload, Option.bind_some]

theorem writable_fields {f : Frame} (fits : Addressable (Text.Utf8.bytesOf f.payload)) :
    ∀ field ∈ f.fields, field.Writable := by
  have short : (Text.Utf8.bytesOf f.payload).length < UInt64.size := Nat.lt_trans fits (by decide)
  simp only [fields, List.forall_mem_append]
  exact ⟨⟨writable_wordField (by decide) _, writable_wordField (by decide) _⟩,
    writable_blockField (by decide) short⟩

theorem absorbBytes_encode {f : Frame} (fits : Addressable (Text.Utf8.bytesOf f.payload))
    (depth : Nat) : absorbBytes Frame.absorb depth .default f.encode = some f := by
  rw [encode, absorbBytes_encodeFields (writable_fields fits), absorbAll_fields]

end Frame

namespace Envelope

/-- The payload of an envelope, which is empty unless it holds data. -/
def payload (e : Envelope) : List UInt8 :=
  (e.data?.map Message.payload).getD []

theorem writable_fields {e : Envelope} (fits : Addressable e.payload) :
    ∀ f ∈ e.fields, f.Writable := by
  have one : IsFieldNumber 1 := by decide
  have two : IsFieldNumber 2 := by decide
  cases e with
  | empty => exact nofun
  | data m => exact List.forall_mem_singleton.mpr ⟨one, Message.length_encode_lt fits⟩
  | ack a => exact List.forall_mem_singleton.mpr ⟨two, a.length_encode_lt⟩

/-- What comes of an envelope when another one is read after it. Two of one kind are laid over each
other; one of another kind takes the place of the first, and the empty one changes nothing. -/
def merge : Envelope → Envelope → Envelope
  | e, .empty => e
  | .data m, .data n => .data (m.overlay n)
  | .ack a, .ack b => .ack (a.overlay b)
  | _, e => e

@[simp] theorem empty_merge (e : Envelope) : merge .empty e = e := by
  cases e <;> rfl

/-- The fields of an envelope are absorbed by merging it. -/
theorem absorbAll_fields (e : Envelope) {e' : Envelope} (fits : Addressable e'.payload) :
    absorbAll Envelope.absorb e e'.fields = some (e.merge e') := by
  cases e' with
  | empty => cases e <;> rfl
  | data n =>
      have read := Message.absorbBytes_overlay (n := n) fits (nestingLimit - 1)
      cases e <;> simp only [fields, absorbAll, Envelope.absorb, Value.block?, data?,
        Option.getD_none, Option.getD_some, read, Option.map_some, Message.default_overlay, merge]
  | ack b =>
      have read := b.absorbBytes_overlay (nestingLimit - 1)
      cases e <;> simp only [fields, absorbAll, Envelope.absorb, Value.block?, ack?,
        Option.getD_none, Option.getD_some, read, Option.map_some, Ack.default_overlay, merge]

/-- An envelope is read back from its bytes, whatever it holds. -/
theorem absorbBytes_encode {e : Envelope} (fits : Addressable e.payload) (depth : Nat) :
    absorbBytes Envelope.absorb depth .empty e.encode = some e := by
  rw [encode, absorbBytes_encodeFields (writable_fields fits), absorbAll_fields .empty fits,
    empty_merge]

/-- Only the empty envelope has no bytes. -/
theorem encode_eq_nil_iff (e : Envelope) : e.encode = [] ↔ e = .empty := by
  cases e with
  | empty => exact ⟨fun _ => rfl, fun _ => rfl⟩
  | data m => simp [encode, fields, encodeFields, Field.encode_ne_nil]
  | ack a => simp [encode, fields, encodeFields, Field.encode_ne_nil]

end Envelope

/-- Every message is read back from its bytes: a data message, an acknowledgement, an envelope with
any contents or none, and a frame. An envelope that holds something has bytes of its own, also where
every field of its contents has its default. -/
theorem messages_read_back :
    (∀ m : Message, Addressable m.payload → Message.decode? m.encode = some m) ∧
    (∀ a : Ack, Ack.decode? a.encode = some a) ∧
    (∀ e : Envelope, Addressable e.payload → Envelope.decode? e.encode = some e) ∧
    (∀ f : Frame, Addressable (Text.Utf8.bytesOf f.payload) → Frame.decode? f.encode = some f) ∧
    (∀ e : Envelope, e.encode = [] ↔ e = .empty) := by
  refine ⟨fun m fits => ?_, fun a => ?_, fun e fits => ?_, fun f fits => ?_, fun e => ?_⟩
  · exact Message.absorbBytes_encode fits nestingLimit
  · exact a.absorbBytes_encode nestingLimit
  · exact Envelope.absorbBytes_encode fits nestingLimit
  · exact Frame.absorbBytes_encode fits nestingLimit
  · exact e.encode_eq_nil_iff

/-- The largest id with bytes that are no text, the same in an envelope, an envelope around a
default message, and a frame with characters of two, three and four bytes. -/
theorem messages_read_back_largest :
    let m : Message := ⟨18446744073709551615, 300, [0xFF, 0x00], true⟩
    let f : Frame := ⟨1, 0, "é€😀"⟩
    let bare : Envelope := .data .default
    Addressable m.payload ∧ Message.decode? m.encode = some m ∧
      Addressable (Envelope.data m).payload ∧
      Envelope.decode? (Envelope.data m).encode = some (.data m) ∧
      Addressable bare.payload ∧ Envelope.decode? bare.encode = some bare ∧ bare.encode ≠ [] ∧
      Addressable (Text.Utf8.bytesOf f.payload) ∧ Frame.decode? f.encode = some f := by
  intro m f bare
  obtain ⟨message, _, envelope, frame, empty⟩ := messages_read_back
  have small : Addressable m.payload := by decide
  have unfilled : Addressable bare.payload := by decide
  have text : Addressable (Text.Utf8.bytesOf f.payload) := by decide +kernel
  refine ⟨small, message m small, small, envelope (.data m) small, unfilled,
    envelope bare unfilled, ?_, text, frame f text⟩
  intro nothing
  exact absurd ((empty bare).mp nothing) nofun

end DuplexStream
