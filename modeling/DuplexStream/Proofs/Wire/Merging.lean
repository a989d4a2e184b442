import DuplexStream.Proofs.Wire.RoundTrip
import DuplexStream.Proofs.Wire.Spelling

/-!
# Envelopes one after the other

The bytes of two envelopes in a row are read as one envelope, `Envelope.merge`: what has been read
so far is all that the second one meets. Fields that an envelope does not know may stand before,
between and behind the two, in any spelling. They change nothing, as long as none of them stands
deeper than groups may nest (`decode?_merge`); a hundred nested groups around a field are one level
too many (`full_groups_refused`).
-/

namespace DuplexStream

open Record

namespace Record

variable {α : Type} {absorb : α → Field → Option α} {m m' : α} {depth : Nat}

@[simp] theorem absorbBytes_nil (m : α) : absorbBytes absorb depth m [] = some m := by
  simp only [absorbBytes, readFields, absorbAll]

/-- The bytes of fields that are passed over stand in front of what is absorbed. -/
theorem absorbBytes_spelling {s : Spelling} (wellFormed : s.WellFormed) (room : 1 ≤ depth)
    (passed : ∀ f ∈ s.fields, absorb m f = some m) (bs : List UInt8) :
    absorbBytes absorb depth m (s.bytes ++ bs) =
      if s.height ≤ depth then absorbBytes absorb depth m bs else none := by
  rw [absorbBytes, Spelling.readFields_spelling wellFormed room]
  by_cases low : s.height ≤ depth
  · rw [if_pos low, if_pos low, absorbBytes]
    cases readFields depth bs with
    | none => rfl
    | some fs =>
        simp only [Option.map_some, absorbAll_append, absorbAll_of_passed passed,
          Option.bind_some]
  · rw [if_neg low, if_neg low]

/-- The bytes of fields that can be written stand in front of what is absorbed after them. -/
theorem absorbBytes_encodeFields_append {fs : List Field} (writable : ∀ f ∈ fs, f.Writable)
    (absorbs : absorbAll absorb m fs = some m') (bs : List UInt8) :
    absorbBytes absorb depth m (encodeFields fs ++ bs) = absorbBytes absorb depth m' bs := by
  rw [absorbBytes, readFields_encodeFields writable, absorbBytes]
  cases readFields depth bs with
  | none => rfl
  | some gs => simp only [Option.map_some, absorbAll_append, absorbs, Option.bind_some]

/-- Well-formed fields whose numbers an envelope does not know. -/
structure Spelling.Unknown (s : Spelling) : Prop where
  wellFormed : s.WellFormed
  numbers : ∀ f ∈ s.fields, f.number ≠ 1 ∧ f.number ≠ 2

/-- Groups with the number three around something, one inside the other. -/
def Spelling.nest : Nat → Spelling → Spelling
  | 0, inside => inside
  | n + 1, inside => .group 3 [0x1B] (nest n inside) [0x1C] .done

namespace Spelling

variable {s : Spelling}

@[simp] theorem groupDepth_nest (n : Nat) (s : Spelling) :
    (nest n s).groupDepth = n + s.groupDepth := by
  induction n with
  | zero => rw [nest, Nat.zero_add]
  | succ n ih =>
      rw [nest, groupDepth, ih, groupDepth]
      omega

@[simp] theorem height_nest (n : Nat) (s : Spelling) : (nest n s).height = n + s.height := by
  induction n with
  | zero => rw [nest, Nat.zero_add]
  | succ n ih =>
      rw [nest, height, ih, height]
      omega

theorem wellFormed_nest (wellFormed : s.WellFormed) (n : Nat) : (nest n s).WellFormed := by
  have start : IsKey [0x1B] ⟨3, .groupStart⟩ := ⟨by decide, .last (by decide), by decide, by decide⟩
  have stop : IsKey [0x1C] ⟨3, .groupEnd⟩ := ⟨by decide, .last (by decide), by decide, by decide⟩
  induction n with
  | zero => exact wellFormed
  | succ n ih => exact ⟨start, ih, stop, trivial⟩

theorem Unknown.nest (unknown : s.Unknown) (n : Nat) : (nest n s).Unknown := by
  refine ⟨wellFormed_nest unknown.wellFormed n, ?_⟩
  cases n with
  | zero => exact unknown.numbers
  | succ n => simp [Spelling.nest, fields]

end Spelling

end Record

namespace Envelope

theorem absorb_of_unknown {f : Field} (unknown : f.number ≠ 1 ∧ f.number ≠ 2) (e : Envelope) :
    e.absorb f = some e := by
  unfold absorb
  split
  · exact absurd ‹_› unknown.1
  · exact absurd ‹_› unknown.2
  · rfl

theorem absorbBytes_unknown {s : Spelling} (unknown : s.Unknown) (e : Envelope)
    (bs : List UInt8) :
    absorbBytes Envelope.absorb nestingLimit e (s.bytes ++ bs) =
      if s.height ≤ nestingLimit then absorbBytes Envelope.absorb nestingLimit e bs else none :=
  absorbBytes_spelling unknown.wellFormed (by decide)
    (fun _ mem => absorb_of_unknown (unknown.numbers _ mem) e) bs

theorem absorbBytes_encode_append (e : Envelope) {e' : Envelope} (fits : Addressable e'.payload)
    (bs : List UInt8) :
    absorbBytes Envelope.absorb nestingLimit e (e'.encode ++ bs) =
      absorbBytes Envelope.absorb nestingLimit (e.merge e') bs :=
  absorbBytes_encodeFields_append (writable_fields fits) (absorbAll_fields e fits) bs

/-- The bytes of two envelopes in a row are read as the two merged. Unknown fields before, between
and behind them change nothing if they stand at most a hundred levels deep; otherwise nothing is
read at all. -/
theorem decode?_merge {e e' : Envelope} (fits : Addressable e.payload)
    (fits' : Addressable e'.payload) {before between behind : Spelling}
    (unknown : before.Unknown ∧ between.Unknown ∧ behind.Unknown) :
    Envelope.decode?
        (before.bytes ++ e.encode ++ between.bytes ++ e'.encode ++ behind.bytes) =
      if before.height ≤ 100 ∧ between.height ≤ 100 ∧ behind.height ≤ 100 then some (e.merge e')
      else none := by
  obtain ⟨first, second, third⟩ := unknown
  have last := absorbBytes_unknown third (e.merge e') []
  rw [List.append_nil, absorbBytes_nil] at last
  simp only [decode?, List.append_assoc]
  rw [absorbBytes_unknown first, absorbBytes_encode_append .empty fits, empty_merge,
    absorbBytes_unknown second, absorbBytes_encode_append e fits', last, ite_and, ite_and]
  rfl

/-- Two data messages, the second of which says only a timestamp. In front stand ninety-nine groups
around a number, between the two a number with a group too many and blocks of four and eight bytes,
and behind them a hundred groups with nothing inside. -/
theorem decode?_merge_nested :
    let number : Spelling := .plain 3 (.word 0) [0x18] [0x80, 0x00] .done
    let blocks : Spelling :=
      .plain 4 (.fourBytes [1, 2, 3, 4]) [0x25] [1, 2, 3, 4]
        (.plain 5 (.eightBytes [1, 2, 3, 4, 5, 6, 7, 8]) [0x29] [1, 2, 3, 4, 5, 6, 7, 8]
          (.plain 6 (.block [9]) [0x32] [0x01, 9] number))
    let e : Envelope := .data ⟨7, 1, [0x61], true⟩
    let e' : Envelope := .data ⟨0, 5, [], false⟩
    let before := Spelling.nest 99 number
    let behind := Spelling.nest 100 .done
    Addressable e.payload ∧ Addressable e'.payload ∧
      (before.Unknown ∧ blocks.Unknown ∧ behind.Unknown) ∧
      before.height = 100 ∧ behind.height = 100 ∧
      Envelope.decode? (before.bytes ++ e.encode ++ blocks.bytes ++ e'.encode ++ behind.bytes) =
        some (.data ⟨7, 5, [0x61], true⟩) := by
  intro number blocks e e' before behind
  have numberUnknown : number.Unknown :=
    ⟨⟨⟨by decide, .last (by decide), by decide, by decide⟩,
      .word ⟨.more (by decide) (.last (by decide)), by decide, by decide⟩, trivial⟩, by decide⟩
  have blocksUnknown : blocks.Unknown := by
    refine ⟨⟨⟨by decide, .last (by decide), by decide, by decide⟩, .fourBytes rfl,
      ⟨by decide, .last (by decide), by decide, by decide⟩, .eightBytes rfl,
      ⟨by decide, .last (by decide), by decide, by decide⟩, ?_, numberUnknown.wellFormed⟩,
        by decide⟩
    exact @IsValue.block [0x01] _ ⟨.last (by decide), by decide, by decide⟩
  have nothing : Spelling.Unknown .done := ⟨trivial, nofun⟩
  have unknown := And.intro (numberUnknown.nest 99) (And.intro blocksUnknown (nothing.nest 100))
  have high : before.height = 100 := Spelling.height_nest 99 number
  have low : blocks.height = 1 := rfl
  have deep : behind.height = 100 := Spelling.height_nest 100 .done
  have small : Addressable e.payload := by decide
  have empty : Addressable e'.payload := by decide
  refine ⟨small, empty, unknown, high, deep, ?_⟩
  rw [decode?_merge small empty unknown, if_pos ⟨Nat.le_of_eq high, by rw [low]; decide,
    Nat.le_of_eq deep⟩]
  rfl

/-- Groups nested a hundred deep are too much if the innermost one holds a field: the envelope
behind them is not read, although it is read by itself. -/
theorem full_groups_refused :
    let full := Spelling.nest 100 (.plain 3 (.word 0) [0x18] [0x00] .done)
    let e : Envelope := .ack ⟨7, 0⟩
    full.Unknown ∧ full.groupDepth = 100 ∧ Envelope.decode? e.encode = some e ∧
      Envelope.decode? (full.bytes ++ e.encode) = none := by
  intro full e
  have number : Spelling.Unknown (.plain 3 (.word 0) [0x18] [0x00] .done) :=
    ⟨⟨⟨by decide, .last (by decide), by decide, by decide⟩,
      .word ⟨.last (by decide), by decide, by decide⟩, trivial⟩, by decide⟩
  have high : full.height = 101 := Spelling.height_nest 100 _
  refine ⟨number.nest 100, Spelling.groupDepth_nest 100 _,
    absorbBytes_encode (by decide) nestingLimit, ?_⟩
  rw [decode?, absorbBytes_unknown (number.nest 100), if_neg (by rw [high]; decide)]

end Envelope

end DuplexStream
