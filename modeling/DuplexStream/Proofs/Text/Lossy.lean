import DuplexStream.Proofs.Text.WellFormed
import Mathlib.Data.List.Induction

/-!
# What is replaced

Any bytes fall into characters and ill-formed parts in one way only. An ill-formed part is a byte
that begins no character, or the start of a character that neither ends there nor goes on with the
next byte. `Mends` says so in terms of the bytes of characters alone, without the reading; the
reading with replacements finds exactly this division (`Text.Utf8.mends_iff`).
-/

namespace DuplexStream.Text.Utf8

/-- Some character begins with these bytes. -/
def Begins (part : List UInt8) : Prop :=
  ∃ c, part <+: encodeChar c

/-- `IllFormed part rest`: the bytes `part`, with `rest` behind them, are no character and stand
together for one that was damaged. -/
inductive IllFormed : List UInt8 → List UInt8 → Prop where
  | stray {b : UInt8} {rest : List UInt8} (none : ¬ Begins [b]) : IllFormed [b] rest
  | cut {part rest : List UInt8} (nonempty : part ≠ []) (begun : Begins part)
      (unfinished : ∀ c, encodeChar c ≠ part)
      (stopped : ∀ b ∈ rest.head?, ¬ Begins (part ++ [b])) : IllFormed part rest

/-- `Mends bs cs`: the bytes fall into the characters of `cs`, in order, where a replacement
character may stand for an ill-formed part. -/
inductive Mends : List UInt8 → List Char → Prop where
  | nil : Mends [] []
  | char {bs : List UInt8} {cs : List Char} (c : Char) (others : Mends bs cs) :
      Mends (encodeChar c ++ bs) (c :: cs)
  | broken {part rest : List UInt8} {cs : List Char} (ill : IllFormed part rest)
      (others : Mends rest cs) : Mends (part ++ rest) (replacement :: cs)

/-- `Reading part p`: from the start of a character, the bytes `part` lead to the state `p`. -/
inductive Reading : List UInt8 → Option Partial → Prop where
  | start : Reading [] none
  | more {part : List UInt8} {p : Option Partial} {b : UInt8} {q : Partial}
    (before : Reading part p)
      (needs : feed p b = .needs q) : Reading (part ++ [b]) (some q)

section Completion

/-- Every range that is still to be met holds a byte. -/
def Partial.Fillable (p : Partial) : Prop :=
  ∀ r ∈ p.first :: p.more, ∃ b, r.contains b = true

theorem contains_low {r : ByteRange} (ordered : r.low ≤ r.high) (small : r.high < 256) :
    ∃ b, r.contains b = true := by
  refine ⟨UInt8.ofNat r.low, (contains_iff _ _).mpr ?_⟩
  rw [toNat_byte (Nat.lt_of_le_of_lt ordered small)]
  exact ⟨Nat.le_refl _, ordered⟩

theorem fillable_of_lead {b : UInt8} {p : Partial} (needs : lead b = .needs p) : p.Fillable := by
  -- each range that `lead` names reaches from its low end to a higher one
  simp only [lead] at needs
  split_ifs at needs <;> simp only [Feed.needs.injEq] at needs <;> subst needs <;>
    simp [Partial.Fillable, anyContinuation, contains_low]

theorem Partial.fillable_of_feed {p q : Partial} {b : UInt8} (needs : p.feed b = .needs q)
    (fillable : p.Fillable) : q.Fillable := by
  obtain ⟨bits, r, more⟩ := p
  by_cases fits : r.contains b = true
  · cases more with
    | nil => simp [Partial.feed, fits] at needs
    | cons r' more =>
        simp only [Partial.feed, if_pos fits, Feed.needs.injEq] at needs
        subst needs
        exact (List.forall_mem_cons.mp fillable).2
  · simp [Partial.feed, fits] at needs

theorem fillable_of_reading {part : List UInt8} {p : Partial} (read : Reading part (some p)) :
    p.Fillable := by
  generalize state : some p = s at read
  induction read generalizing p with
  | start => cases state
  | @more part s b q before needs ih =>
      cases state
      cases s with
      | none => exact fillable_of_lead needs
      | some s => exact Partial.fillable_of_feed needs (ih rfl)

/-- What has been begun can be completed. -/
theorem Partial.Fillable.completes {p : Partial} (fillable : p.Fillable) :
    ∃ bs c, decodeFrom (some p) bs = some [c] := by
  obtain ⟨bits, r, more⟩ := p
  induction more generalizing bits r with
  | nil =>
      obtain ⟨b, fits⟩ := fillable r List.mem_cons_self
      exact ⟨[b], Char.ofNat (bits * 64 + b.toNat % 64), by
        simp only [decodeFrom, Utf8.feed, Partial.feed, if_pos fits, Option.map_some]⟩
  | cons r' more ih =>
      obtain ⟨⟨b, fits⟩, others⟩ := List.forall_mem_cons.mp fillable
      obtain ⟨bs, c, read⟩ := ih (bits * 64 + b.toNat % 64) r' others
      exact ⟨b :: bs, c, by
        simpa only [decodeFrom, Utf8.feed, Partial.feed, if_pos fits] using read⟩

end Completion

section Parts

variable {part bs : List UInt8} {p : Option Partial} {b : UInt8} {c : Char}

/-- The reading goes on from the state that has been reached. -/
theorem Reading.decodeFrom_append (read : Reading part p) (bs : List UInt8) :
    decodeFrom none (part ++ bs) = decodeFrom p bs := by
  induction read generalizing bs with
  | start => rfl
  | more before needs ih => rw [List.append_assoc, ih, List.singleton_append, decodeFrom, needs]

theorem decodeFrom_encodeChar_self (c : Char) : decodeFrom none (encodeChar c) = some [c] := by
  have read := decodeFrom_encodeChar c []
  rwa [List.append_nil] at read

/-- Bytes that end in the middle of a character begin one and are none. -/
theorem Reading.begins {q : Partial} (read : Reading part (some q)) :
    part ≠ [] ∧ Begins part ∧ ∀ c, encodeChar c ≠ part := by
  refine ⟨?_, ?_, fun c whole => ?_⟩
  · rintro rfl
    generalize state : some q = s, same : ([] : List UInt8) = bs at read
    cases read with
    | start => cases state
    | more => exact List.append_ne_nil_of_right_ne_nil _ (List.cons_ne_nil _ _) same.symm
  · obtain ⟨rest, c, completed⟩ := (fillable_of_reading read).completes
    have decoded : decode? (part ++ rest) = some [c] := by
      rw [decode?, read.decodeFrom_append, completed]
    refine ⟨c, rest, ?_⟩
    rw [← encode_of_decode? decoded, encode, List.flatMap_singleton]
  · have stuck := read.decodeFrom_append []
    rw [List.append_nil, ← whole, decodeFrom_encodeChar_self] at stuck
    cases stuck

/-- A byte that completes a character makes the bytes so far the bytes of this character. -/
theorem Reading.encodeChar_of_complete (read : Reading part p) (fed : feed p b = .complete c) :
    encodeChar c = part ++ [b] := by
  have decoded : decode? (part ++ [b]) = some [c] := by
    rw [decode?, read.decodeFrom_append, decodeFrom, fed]
    rfl
  rw [← encode_of_decode? decoded, encode, List.flatMap_singleton]

/-- A byte on which the reading breaks leaves no character that the bytes could begin. -/
theorem Reading.not_begins_of_broken (read : Reading part p) (fed : feed p b = .broken) :
    ¬ Begins (part ++ [b]) := by
  rintro ⟨c, rest, whole⟩
  have broken : decodeFrom none (encodeChar c) = none := by
    rw [← whole, List.append_assoc, read.decodeFrom_append, List.singleton_append, decodeFrom, fed]
  rw [decodeFrom_encodeChar_self] at broken
  cases broken

/-- The reading breaks on a byte exactly if no character begins with it behind the bytes so far. -/
theorem Reading.broken_iff (read : Reading part p) :
    feed p b = .broken ↔ ¬ Begins (part ++ [b]) := by
  constructor
  · exact read.not_begins_of_broken
  · intro none
    cases fed : feed p b with
    | complete c =>
      exact absurd ⟨c, [], by rw [List.append_nil, read.encodeChar_of_complete fed]⟩ none
    | needs q => exact absurd (Reading.more read fed).begins.2.1 none
    | broken => rfl

/-- What follows the bytes of one character within the bytes of another is nothing. -/
theorem eq_nil_of_encodeChar_append {c' : Char} {rest : List UInt8}
    (inside : encodeChar c' ++ rest = encodeChar c) : rest = [] := by
  have read := decodeFrom_encodeChar c' rest
  rw [inside, decodeFrom_encodeChar_self] at read
  obtain ⟨cs, others, same⟩ := Option.map_eq_some_iff.mp read.symm
  obtain ⟨-, rfl⟩ := List.cons.inj same
  exact (encode_of_decode? (show decode? rest = some [] from others)).symm

/-- The bytes that a character begins with are read up to a state in its middle. -/
theorem reading_of_prefix {rest : List UInt8} (whole : part ++ rest = encodeChar c)
    (unfinished : rest ≠ []) : ∃ p, Reading part p := by
  induction part using List.reverseRecOn generalizing rest with
  | nil => exact ⟨none, .start⟩
  | append_singleton part b ih =>
      rw [List.append_assoc, List.singleton_append] at whole
      obtain ⟨p, read⟩ := ih whole (List.cons_ne_nil _ _)
      cases fed : feed p b with
      | complete c' =>
          have inside : encodeChar c' ++ rest = encodeChar c := by
            rw [read.encodeChar_of_complete fed, List.append_assoc, List.singleton_append, whole]
          exact absurd (eq_nil_of_encodeChar_append inside) unfinished
      | needs q => exact ⟨some q, .more read fed⟩
      | broken =>
          refine absurd ⟨c, rest, ?_⟩ (read.not_begins_of_broken fed)
          rw [List.append_assoc, List.singleton_append, whole]

/-- Bytes that begin a character without being one are read up to a state in its middle. -/
theorem reading_of_begins (nonempty : part ≠ []) (begun : Begins part)
    (unfinished : ∀ c, encodeChar c ≠ part) : ∃ q, Reading part (some q) := by
  obtain ⟨c, rest, whole⟩ := begun
  have more : rest ≠ [] := by
    rintro rfl
    rw [List.append_nil] at whole
    exact unfinished c whole.symm
  obtain ⟨p, read⟩ := reading_of_prefix whole more
  cases read with
  | start => exact absurd rfl nonempty
  | more before needs => exact ⟨_, .more before needs⟩

end Parts

section Replacing

variable {part bs : List UInt8} {p : Option Partial} {b : UInt8} {c : Char}

theorem decodeLossyFrom_of_complete (fed : feed p b = .complete c) (bs : List UInt8) :
    decodeLossyFrom p (b :: bs) = c :: decodeLossyFrom none bs := by
  cases p with
  | none => simp only [decodeLossyFrom, show lead b = .complete c from fed]
  | some p => simp only [decodeLossyFrom, show p.feed b = .complete c from fed]

theorem decodeLossyFrom_of_needs {q : Partial} (fed : feed p b = .needs q) (bs : List UInt8) :
    decodeLossyFrom p (b :: bs) = decodeLossyFrom (some q) bs := by
  cases p with
  | none => simp only [decodeLossyFrom, show lead b = .needs q from fed]
  | some p => simp only [decodeLossyFrom, show p.feed b = .needs q from fed]

theorem decodeLossyFrom_of_stray (fed : lead b = .broken) (bs : List UInt8) :
    decodeLossyFrom none (b :: bs) = replacement :: decodeLossyFrom none bs := by
  simp only [decodeLossyFrom, fed]

/-- A byte that does not go on with the character is read again as a first byte. -/
theorem decodeLossyFrom_of_broken {q : Partial} (fed : q.feed b = .broken) (bs : List UInt8) :
    decodeLossyFrom (some q) (b :: bs) = replacement :: decodeLossyFrom none (b :: bs) := by
  simp only [decodeLossyFrom, fed]
  cases lead b <;> rfl

theorem Reading.decodeLossyFrom_append (read : Reading part p) (bs : List UInt8) :
    decodeLossyFrom none (part ++ bs) = decodeLossyFrom p bs := by
  induction read generalizing bs with
  | start => rfl
  | more before needs ih =>
      rw [List.append_assoc, ih, List.singleton_append, decodeLossyFrom_of_needs needs]

/-- What the reading with replacements finds is such a division. -/
theorem Reading.mends (read : Reading part p) (bs : List UInt8) :
    Mends (part ++ bs) (decodeLossyFrom p bs) := by
  induction bs generalizing part p with
  | nil =>
      cases p with
      | none =>
          cases read
          exact .nil
      | some q =>
          obtain ⟨nonempty, begun, unfinished⟩ := read.begins
          exact .broken (.cut nonempty begun unfinished nofun) .nil
  | cons b bs ih =>
      -- A break is settled by reading `b` as a first byte, where no second break can come.
      have go {part : List UInt8} {p : Option Partial} (read : Reading part p)
          (again : p ≠ none → Mends (b :: bs) (decodeLossyFrom none (b :: bs))) :
          Mends (part ++ b :: bs) (decodeLossyFrom p (b :: bs)) := by
        cases fed : feed p b with
        | complete c =>
            rw [decodeLossyFrom_of_complete fed, List.append_cons,
              ← read.encodeChar_of_complete fed]
            exact .char c (ih .start)
        | needs q =>
            rw [decodeLossyFrom_of_needs fed, List.append_cons]
            exact ih (.more read fed)
        | broken =>
            have stopped := read.not_begins_of_broken fed
            cases p with
            | none =>
                cases read
                rw [decodeLossyFrom_of_stray fed]
                have stray : Mends ([b] ++ bs) (replacement :: decodeLossyFrom none bs) :=
                  .broken (.stray stopped) (ih .start)
                exact stray
            | some q =>
                obtain ⟨nonempty, begun, unfinished⟩ := read.begins
                rw [decodeLossyFrom_of_broken fed]
                refine .broken (.cut nonempty begun unfinished ?_) (again nofun)
                intro b' first
                cases first
                exact stopped
      exact go read fun _ => go .start (absurd rfl)

/-- The reading with replacements passes over an ill-formed part with one replacement character. -/
theorem IllFormed.decodeLossy_append {rest : List UInt8} (ill : IllFormed part rest) :
    decodeLossy (part ++ rest) = replacement :: decodeLossy rest := by
  cases ill with
  | stray none => exact decodeLossyFrom_of_stray (Reading.start.broken_iff.mpr none) rest
  | cut nonempty begun unfinished stopped =>
      obtain ⟨q, read⟩ := reading_of_begins nonempty begun unfinished
      rw [decodeLossy, read.decodeLossyFrom_append]
      cases rest with
      | nil => rfl
      | cons b rest =>
          exact decodeLossyFrom_of_broken (read.broken_iff.mpr (stopped b rfl)) rest

/-- Bytes fall into characters and ill-formed parts in exactly one way, the one that the reading
with replacements finds. -/
theorem mends_iff {cs : List Char} : Mends bs cs ↔ decodeLossy bs = cs := by
  constructor
  · intro mends
    induction mends with
    | nil => rfl
    | char c others ih =>
        rw [decodeLossy, decodeLossyFrom_append (decodeFrom_encodeChar_self c), ← decodeLossy, ih,
          List.singleton_append]
    | broken ill others ih => rw [ill.decodeLossy_append, ih]
  · rintro rfl
    exact Reading.start.mends bs

end Replacing

/-- Reading with replacements and writing again gives back the same bytes exactly if they are
valid. -/
theorem bytesOf_textLossy_eq_iff {bs : List UInt8} :
    bytesOf (textLossy bs) = bs ↔ bs.toByteArray.IsValidUTF8 := by
  rw [← isValid_iff]
  constructor
  · intro same
    have read : text? bs = some (textLossy bs) := text?_eq_some_iff.mpr same
    rw [text?] at read
    obtain ⟨cs, decoded, _⟩ := Option.map_eq_some_iff.mp read
    rw [IsValid, decoded]
    rfl
  · intro valid
    obtain ⟨cs, decoded⟩ := Option.isSome_iff_exists.mp valid
    rw [textLossy, decodeLossy, decodeLossyFrom_of_decodeFrom decoded, bytesOf,
      String.toList_ofList, encode_of_decode? decoded]

/-- A truncated character in front of a letter, a byte that begins nothing, and the three bytes that
a surrogate would be written with: each is replaced on its own. -/
example : decodeLossy [0xE2, 0x82, 0x61, 0xFF, 0xED, 0xA0, 0x80] =
    [replacement, 'a', replacement, replacement, replacement, replacement] := by
  decide +kernel

end DuplexStream.Text.Utf8
