import DuplexStream.Proofs.Text.WellFormed
import DuplexStream.Proofs.Wire.RoundTrip

/-!
# Bytes of one schema read by the other

A frame and a data message number their fields alike, so the bytes of either are bytes of the other,
up to a payload that is no text and the flag that a frame does not know (`schemas_agree`). A frame
and an envelope use the numbers one and two for values of different layouts: the bytes of one that
has written such a field are refused by the other (`wires_told_apart`).
-/

namespace DuplexStream

open Record

namespace Record

variable {α : Type} {absorb : α → Field → Option α} {m : α}

/-- A number in a place that takes none is refused, unless it is zero and not written. -/
theorem absorbAll_wordField_of_refused {number : Nat} {v : UInt64}
    (refused : absorb m ⟨number, .word v⟩ = none) (fs : List Field) :
    absorbAll absorb m (wordField number v ++ fs) =
      if v = 0 then absorbAll absorb m fs else none := by
  by_cases zero : v = 0
  · rw [wordField, if_pos zero, if_pos zero, List.nil_append]
  · simp only [wordField, if_neg zero, List.singleton_append, absorbAll, refused]

end Record

namespace Frame

/-- A frame is written as the data message that it becomes. -/
theorem encode_eq (f : Frame) : f.encode = (Message.ofFrame f).encode := by
  simp [encode, fields, Message.encode, Message.fields, Message.ofFrame, flagField]

/-- The fields of a data message make a frame if the payload is text. The flag is passed over. -/
theorem absorbAll_messageFields (m : Message) : absorbAll Frame.absorb .default m.fields =
    (Text.Utf8.text? m.payload).map fun s => ⟨m.id, m.timestamp, s⟩ := by
  have numbers : absorbAll Frame.absorb .default (wordField 1 m.id ++ wordField 2 m.timestamp) =
      some ⟨m.id, m.timestamp, ""⟩ := by
    have whole := absorbAll_fields ⟨m.id, m.timestamp, ""⟩
    simpa only [fields, show Text.Utf8.bytesOf "" = [] from rfl, blockField, List.isEmpty_nil,
      if_true, List.append_nil] using whole
  have payload : absorbAll Frame.absorb ⟨m.id, m.timestamp, ""⟩ (blockField 3 m.payload) =
      (Text.Utf8.text? m.payload).map fun s => ⟨m.id, m.timestamp, s⟩ := by
    by_cases empty : m.payload = []
    · rw [empty]
      rfl
    · simp only [blockField, List.isEmpty_iff, if_neg empty, absorbAll, Frame.absorb, Value.text?,
        Value.block?]
      cases Text.Utf8.text? m.payload <;> rfl
  have flag (f : Frame) : absorbAll Frame.absorb f (flagField 4 m.needsAck) = some f := by
    apply absorbAll_of_passed
    intro field written
    obtain ⟨_, rfl⟩ : m.needsAck = true ∧ field = ⟨4, .word 1⟩ := by
      simpa [flagField] using written
    rfl
  rw [Message.fields, List.append_assoc, absorbAll_append, numbers, Option.bind_some,
    absorbAll_append, payload]
  simp only [flag, Option.bind_fun_some]

theorem decode?_message {m : Message} (fits : Addressable m.payload) : Frame.decode? m.encode =
    (Text.Utf8.text? m.payload).map fun s => ⟨m.id, m.timestamp, s⟩ := by
  rw [Frame.decode?, Message.encode, absorbBytes_encodeFields (Message.writable_fields fits),
    absorbAll_messageFields]

/-- What a data message becomes when its payload is the text `s`. -/
theorem ofData_of_text {m : Message} {s : String} (text : Text.Utf8.text? m.payload = some s) :
    Frame.ofData m = ⟨m.id, m.timestamp, s⟩ := by
  rw [Frame.ofData, Message.text, ← Text.Utf8.text?_eq_some_iff.mp text,
    Text.Utf8.textLossy_bytesOf]

theorem decode?_envelope {e : Envelope} (fits : Addressable e.payload) :
    Frame.decode? e.encode = if e = .empty then some .default else none := by
  rw [Frame.decode?, Envelope.encode, absorbBytes_encodeFields (Envelope.writable_fields fits)]
  cases e <;> rfl

end Frame

/-- Of the fields of a frame an envelope refuses the numbers and passes over the payload. -/
theorem Envelope.decode?_frame {f : Frame} (fits : Addressable (Text.Utf8.bytesOf f.payload)) :
    Envelope.decode? f.encode =
      if f.id = 0 then if f.timestamp = 0 then some .empty else none else none := by
  have payload : absorbAll Envelope.absorb .empty
      (blockField 3 (Text.Utf8.bytesOf f.payload)) = some .empty := by
    apply absorbAll_of_passed
    intro field written
    obtain ⟨_, rfl⟩ : _ ∧ field = ⟨3, .block (Text.Utf8.bytesOf f.payload)⟩ := by
      simpa [blockField] using written
    rfl
  rw [Envelope.decode?, Frame.encode, absorbBytes_encodeFields (Frame.writable_fields fits),
    Frame.fields, List.append_assoc, absorbAll_wordField_of_refused rfl,
    absorbAll_wordField_of_refused rfl, payload]

/-- The two schemas of a data message agree with the conversions between them. The bytes of a frame
are read as the data message that it becomes. The bytes of a data message are read as a frame
exactly if its payload is valid UTF-8, and then as the frame that it becomes. -/
theorem schemas_agree :
    (∀ f : Frame, Addressable (Text.Utf8.bytesOf f.payload) →
      Message.decode? f.encode = some (.ofFrame f)) ∧
    (∀ m : Message, Addressable m.payload →
      ((Frame.decode? m.encode).isSome = true ↔ m.payload.toByteArray.IsValidUTF8) ∧
      ∀ f, Frame.decode? m.encode = some f → f = .ofData m) := by
  refine ⟨fun f fits => ?_, fun m fits => ⟨?_, fun f read => ?_⟩⟩
  · rw [Frame.encode_eq]
    exact Message.absorbBytes_encode fits nestingLimit
  · rw [Frame.decode?_message fits, Option.isSome_map, ← Text.Utf8.isValid_iff,
      Text.Utf8.IsValid, Text.Utf8.text?, Option.isSome_map]
  · rw [Frame.decode?_message fits, Option.map_eq_some_iff] at read
    obtain ⟨s, text, rfl⟩ := read
    exact (Frame.ofData_of_text text).symm

/-- A frame of characters of two, three and four bytes; a data message that asks for an
acknowledgement and whose payload is text; and one whose payload is no text. -/
theorem schemas_agree_accented :
    let f : Frame := ⟨1, 0, "é€😀"⟩
    let m : Message := ⟨18446744073709551615, 300, [0x61, 0xC3, 0xA9], true⟩
    let bad : Message := ⟨7, 0, [0x61, 0xC3], false⟩
    Addressable (Text.Utf8.bytesOf f.payload) ∧ Message.decode? f.encode = some (.ofFrame f) ∧
      Addressable m.payload ∧ m.payload.toByteArray.IsValidUTF8 ∧
      Frame.decode? m.encode = some (.ofData m) ∧
      Addressable bad.payload ∧ ¬ bad.payload.toByteArray.IsValidUTF8 ∧
      Frame.decode? bad.encode = none := by
  intro f m bad
  obtain ⟨ofFrame, ofMessage⟩ := schemas_agree
  have framed : Addressable (Text.Utf8.bytesOf f.payload) := by decide +kernel
  have short : Addressable m.payload := by decide
  have small : Addressable bad.payload := by decide
  have text : m.payload.toByteArray.IsValidUTF8 := (Text.Utf8.isValid_iff _).mp (by decide +kernel)
  have noText : ¬ bad.payload.toByteArray.IsValidUTF8 := by
    rw [← Text.Utf8.isValid_iff]
    decide +kernel
  obtain ⟨read, agrees⟩ := ofMessage m short
  obtain ⟨frame, found⟩ := Option.isSome_iff_exists.mp (read.mpr text)
  refine ⟨framed, ofFrame f framed, short, text, ?_, small, noText, ?_⟩
  · rw [found, agrees frame found]
  · rw [← Option.not_isSome_iff_eq_none, (ofMessage bad small).1]
    exact noText

/-- A peer on the other wire is noticed. The bytes of a frame are no envelope as soon as the frame
has an id or a timestamp, and otherwise the empty envelope. The bytes of an envelope that holds
something are no frame, and those of the empty one are the frame of all defaults. -/
theorem wires_told_apart :
    (∀ f : Frame, Addressable (Text.Utf8.bytesOf f.payload) →
      (Envelope.decode? f.encode = none ↔ f.id ≠ 0 ∨ f.timestamp ≠ 0) ∧
      ∀ e, Envelope.decode? f.encode = some e → e = .empty) ∧
    (∀ e : Envelope, Addressable e.payload → e ≠ .empty → Frame.decode? e.encode = none) ∧
    Frame.decode? Envelope.empty.encode = some .default := by
  refine ⟨fun f fits => ⟨?_, fun e read => ?_⟩, fun e fits holds => ?_, ?_⟩
  · rw [Envelope.decode?_frame fits]
    by_cases id : f.id = 0 <;> by_cases timestamp : f.timestamp = 0 <;> simp [id, timestamp]
  · rw [Envelope.decode?_frame fits] at read
    by_cases id : f.id = 0 <;> by_cases timestamp : f.timestamp = 0 <;>
      simp [id, timestamp] at read
    exact read.symm
  · rw [Frame.decode?_envelope fits, if_neg holds]
  · rw [Frame.decode?_envelope (by decide), if_pos rfl]

/-- A frame without id and timestamp, one with the timestamp alone, and an envelope around a default
message, which has no field that a frame could be built from. -/
theorem wires_told_apart_bare :
    let untold : Frame := ⟨0, 0, "Message 1"⟩
    let timed : Frame := ⟨0, 1700000000, ""⟩
    let e : Envelope := .data .default
    Addressable (Text.Utf8.bytesOf untold.payload) ∧
      Envelope.decode? untold.encode = some .empty ∧
      Addressable (Text.Utf8.bytesOf timed.payload) ∧ Envelope.decode? timed.encode = none ∧
      Addressable e.payload ∧ e ≠ .empty ∧ Frame.decode? e.encode = none := by
  intro untold timed e
  obtain ⟨ofFrame, ofEnvelope, _⟩ := wires_told_apart
  have short : Addressable (Text.Utf8.bytesOf untold.payload) := by decide +kernel
  have bare : Addressable (Text.Utf8.bytesOf timed.payload) := by decide +kernel
  have small : Addressable e.payload := by decide
  have holds : e ≠ .empty := nofun
  obtain ⟨refused, emptied⟩ := ofFrame untold short
  have read : Envelope.decode? untold.encode ≠ none := by
    rw [Ne, refused]
    decide
  obtain ⟨found, is⟩ := Option.ne_none_iff_exists'.mp read
  refine ⟨short, ?_, bare, (ofFrame timed bare).1.mpr (Or.inr (by decide)), small, holds,
    ofEnvelope e small holds⟩
  rw [is, emptied found is]

end DuplexStream
