import DuplexStream.Proofs.Text.Lossy
import DuplexStream.Wire.Adapter

/-!
# The adapters of the framed wire

Going out, each data envelope has its frame at the place that it takes among the data envelopes, and
nothing else has one. Coming in, each item keeps its place. A frame survives the way to a data
message and back; a data message loses the flag, and of its payload what is no text
(`framed_adapters`).
-/

namespace DuplexStream

/-- The envelope holds a data message. -/
def Envelope.isData (e : Envelope) : Bool :=
  e.data?.isSome

section Outgoing

variable (es more : List Envelope)

/-- What follows does not change the frames of what came before. -/
theorem Frame.ofEnvelopes_append :
    Frame.ofEnvelopes (es ++ more) = Frame.ofEnvelopes es ++ Frame.ofEnvelopes more :=
  List.filterMap_append

theorem Frame.length_ofEnvelopes :
    (Frame.ofEnvelopes es).length = es.countP Envelope.isData := by
  induction es with
  | nil => rfl
  | cons e es ih =>
      cases e with
      | data m =>
          rw [List.countP_cons_of_pos rfl, ← ih]
          rfl
      | empty | ack =>
          rw [List.countP_cons_of_neg Bool.false_ne_true, ← ih]
          rfl

/-- The frame of a data envelope stands behind those of the data envelopes in front of it. -/
theorem Frame.ofEnvelopes_getElem? {es : List Envelope} {k : Nat} {m : Message}
    (found : es[k]? = some (.data m)) :
    (Frame.ofEnvelopes es)[(es.take k).countP Envelope.isData]? = some (.ofData m) := by
  obtain ⟨inside, same⟩ := List.getElem?_eq_some_iff.mp found
  have parts : es = es.take k ++ .data m :: es.drop (k + 1) := by
    rw [← same, List.getElem_cons_drop, List.take_append_drop]
  have frames : Frame.ofEnvelopes es =
      Frame.ofEnvelopes (es.take k) ++ .ofData m :: Frame.ofEnvelopes (es.drop (k + 1)) := by
    conv_lhs => rw [parts]
    exact Frame.ofEnvelopes_append _ _
  rw [frames, ← Frame.length_ofEnvelopes, List.getElem?_append_right (Nat.le_refl _), Nat.sub_self]
  rfl

end Outgoing

section Conversion

/-- A frame is found again in the data message that it becomes. -/
theorem Frame.ofData_ofFrame (f : Frame) : Frame.ofData (.ofFrame f) = f := by
  simp only [Frame.ofData, Message.text, Message.ofFrame, Text.Utf8.textLossy_bytesOf]

variable (m : Message)

/-- A data message as it comes out of a frame. -/
def Message.framed : Message :=
  .ofFrame (.ofData m)

@[simp] theorem Message.framed_id : m.framed.id = m.id := rfl

@[simp] theorem Message.framed_timestamp : m.framed.timestamp = m.timestamp := rfl

@[simp] theorem Message.framed_needsAck : m.framed.needsAck = false := rfl

theorem Message.framed_payload :
    m.framed.payload = Text.Utf8.encode (Text.Utf8.decodeLossy m.payload) := by
  rw [framed, ofFrame, Frame.ofData, text, Text.Utf8.bytesOf, Text.Utf8.textLossy,
    String.toList_ofList]

theorem Message.framed_framed : m.framed.framed = m.framed := by
  rw [framed, framed, Frame.ofData_ofFrame]

theorem Message.framed_eq_iff :
    m.framed = { m with needsAck := false } ↔ m.payload.toByteArray.IsValidUTF8 := by
  rw [← Text.Utf8.bytesOf_textLossy_eq_iff]
  constructor
  · exact congrArg Message.payload
  · intro same
    simp only [framed, ofFrame, Frame.ofData, text, same]

/-- The payload that comes out of a frame is valid, whatever went in. -/
theorem Message.isValid_framed_payload : m.framed.payload.toByteArray.IsValidUTF8 := by
  rw [← Text.Utf8.isValid_iff, framed_payload, Text.Utf8.IsValid, Text.Utf8.decode?_encode]
  rfl

end Conversion

/-- The adapters of the framed wire, for all envelopes going out and all items coming in, and the
conversion between frames and data messages in both directions. -/
theorem framed_adapters :
    (∀ es : List Envelope,
      (Frame.ofEnvelopes es).length = es.countP Envelope.isData ∧
      (∀ (k : Nat) (m : Message), es[k]? = some (.data m) →
        (Frame.ofEnvelopes es)[(es.take k).countP Envelope.isData]? =
          some ⟨m.id, m.timestamp, Text.Utf8.textLossy m.payload⟩) ∧
      ∀ more, Frame.ofEnvelopes (es ++ more) = Frame.ofEnvelopes es ++ Frame.ofEnvelopes more) ∧
    (∀ items : List (Except Status Frame),
      (Envelope.ofFrameItems items).length = items.length ∧
      (∀ (k : Nat) (f : Frame), items[k]? = some (.ok f) → (Envelope.ofFrameItems items)[k]? =
        some (.ok (.data ⟨f.id, f.timestamp, Text.Utf8.bytesOf f.payload, false⟩))) ∧
      (∀ (k : Nat) (status : Status), items[k]? = some (.error status) →
        (Envelope.ofFrameItems items)[k]? = some (.error status)) ∧
      ∀ more, Envelope.ofFrameItems (items ++ more) =
        Envelope.ofFrameItems items ++ Envelope.ofFrameItems more) ∧
    (∀ f : Frame, Frame.ofData (.ofFrame f) = f) ∧
    ∀ d : Message, let back := Message.ofFrame (.ofData d)
      (back = { d with needsAck := false } ↔ d.payload.toByteArray.IsValidUTF8) ∧
      back.id = d.id ∧ back.timestamp = d.timestamp ∧ back.needsAck = false ∧
      back.payload.toByteArray.IsValidUTF8 ∧
      (∃ cs, back.payload = Text.Utf8.encode cs ∧
        ∀ cs', Text.Utf8.Mends d.payload cs' ↔ cs' = cs) ∧
      Message.ofFrame (.ofData back) = back := by
  refine ⟨fun es => ⟨?length, ?place, ?append⟩, fun items =>
    ⟨?inLength, ?frame, ?status, ?inAppend⟩,
    Frame.ofData_ofFrame, fun d => ⟨d.framed_eq_iff, rfl, rfl, rfl, d.isValid_framed_payload, ?_,
      d.framed_framed⟩⟩
  case length => exact Frame.length_ofEnvelopes es
  case place =>
    intro k m found
    exact Frame.ofEnvelopes_getElem? found
  case append => exact Frame.ofEnvelopes_append es
  case inLength => exact List.length_map ..
  case frame =>
    intro k f found
    rw [Envelope.ofFrameItems, List.getElem?_map, found]
    rfl
  case status =>
    intro k status found
    rw [Envelope.ofFrameItems, List.getElem?_map, found]
    rfl
  case inAppend =>
    intro more
    exact List.map_append
  · refine ⟨Text.Utf8.decodeLossy d.payload, d.framed_payload, fun cs' => ?_⟩
    rw [Text.Utf8.mends_iff, eq_comm]

/-- Between data with a truncated character stand an acknowledgement and an empty envelope; a status
comes in between two frames. -/
theorem framed_adapters_mixed :
    let cut : Message := ⟨3, 4, [0x61, 0xE2, 0x82, 0x62], true⟩
    let es : List Envelope := [.empty, .data ⟨1, 2, [0x61], true⟩, .ack ⟨1, 2⟩, .data cut]
    let items : List (Except Status Frame) := [.ok ⟨1, 2, "a"⟩, .error ⟨.unavailable, "gone"⟩]
    es[3]? = some (.data cut) ∧
      (Frame.ofEnvelopes es)[1]? = some ⟨3, 4, "a\uFFFDb"⟩ ∧
      items[0]? = some (.ok ⟨1, 2, "a"⟩) ∧
      (Envelope.ofFrameItems items)[0]? = some (.ok (.data ⟨1, 2, [0x61], false⟩)) ∧
      items[1]? = some (.error ⟨.unavailable, "gone"⟩) ∧
      (Envelope.ofFrameItems items)[1]? = some (.error ⟨.unavailable, "gone"⟩) := by
  intro cut es items
  obtain ⟨outgoing, incoming, -, -⟩ := framed_adapters
  obtain ⟨-, place, -⟩ := outgoing es
  obtain ⟨-, frame, status, -⟩ := incoming items
  have mended : Text.Utf8.textLossy cut.payload = "a\uFFFDb" := by decide +kernel
  refine ⟨rfl, ?_, rfl, frame 0 _ rfl, rfl, status 1 _ rfl⟩
  have found := place 3 cut rfl
  rwa [mended] at found

end DuplexStream
