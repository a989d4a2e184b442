import DuplexStream.Proofs.Wire.Fields

/-!
# Fields in any spelling

A field has more than one spelling: a varint may end in groups of zeros, and a group holds fields of
its own, which are read over. A `Spelling` is a sequence of fields with the bytes chosen for each of
their parts. `readFields_spelling` reads any of them in front of what follows, as long as no field
stands deeper than groups may nest, and refuses the others.

## Implementation notes

Two depths are kept apart. `groupDepth` counts groups; `height` also counts a field that is no group
as one level, since reading over such a field takes a level of its own.

-/

namespace DuplexStream.Record

/-- The bytes of a sequence of fields, part by part. -/
inductive Spelling where
  | done
  | plain (number : Nat) (value : Value) (key body : List UInt8) (others : Spelling)
  | group (number : Nat) (first : List UInt8) (inside : Spelling) (last : List UInt8)
      (others : Spelling)

namespace Spelling

/-- The bytes one after the other. -/
def bytes : Spelling → List UInt8
  | done => []
  | plain _ _ key body others => key ++ (body ++ others.bytes)
  | group _ first inside last others => first ++ (inside.bytes ++ (last ++ others.bytes))

/-- The fields that the bytes stand for. Nothing of a group is kept. -/
def fields : Spelling → List Field
  | done => []
  | plain number value _ _ others => ⟨number, value⟩ :: others.fields
  | group number _ _ _ others => ⟨number, .group⟩ :: others.fields

/-- How deep groups nest. -/
def groupDepth : Spelling → Nat
  | done => 0
  | plain _ _ _ _ others => others.groupDepth
  | group _ _ inside _ others => max (inside.groupDepth + 1) others.groupDepth

/-- How deep fields nest, groups or not. -/
def height : Spelling → Nat
  | done => 0
  | plain _ _ _ _ others => max 1 others.height
  | group _ _ inside _ others => max (inside.height + 1) others.height

/-- Each part is what it stands for, and each group ends with its own number. -/
def WellFormed : Spelling → Prop
  | done => True
  | plain number value key body others =>
      IsKey key ⟨number, value.layout⟩ ∧ IsValue body value ∧ others.WellFormed
  | group number first inside last others =>
      IsKey first ⟨number, .groupStart⟩ ∧ inside.WellFormed ∧ IsKey last ⟨number, .groupEnd⟩ ∧
        others.WellFormed

end Spelling

section Groups

variable {bs rest rest' : List UInt8} {depth number : Nat} {outer : List Nat}

/-- A start key inside a group opens another one. -/
theorem closeGroups_of_start {inner : Nat}
    (key : readKey bs = some (⟨inner, .groupStart⟩, rest)) :
    closeGroups depth (number :: outer) bs =
      if (number :: outer).length < depth then closeGroups depth (inner :: number :: outer) rest
      else none := by
  rw [closeGroups]
  split
  · simp_all
  · rename_i found
    rw [key, Option.some.injEq, Prod.mk.injEq] at found
    obtain ⟨rfl, rfl⟩ := found
    rfl

/-- A value inside a group is read over. -/
theorem closeGroups_of_plain {k : Key} {v : Value} (key : readKey bs = some (k, rest))
    (value : readPlain k.layout rest = some (v, rest')) (plain : k.layout ≠ .groupStart) :
    closeGroups depth (number :: outer) bs =
      if (number :: outer).length < depth then closeGroups depth (number :: outer) rest'
      else none := by
  obtain ⟨name, layout⟩ := k
  rw [closeGroups]
  split
  · simp_all
  · rename_i found
    rw [key, Option.some.injEq, Prod.mk.injEq] at found
    obtain ⟨rfl, rfl⟩ := found
    cases layout with
    | groupStart => exact absurd rfl plain
    | groupEnd => simp [readPlain] at value
    | _ =>
        dsimp only
        split
        · split
          · rename_i again
            rw [value, Option.some.injEq, Prod.mk.injEq] at again
            rw [again.2]
          · simp_all
        · rfl

end Groups

namespace Spelling

variable {s : Spelling} {depth : Nat}

/-- Inside open groups the fields of a spelling are read over, unless they stand too deep. -/
theorem closeGroups_spelling (wellFormed : s.WellFormed) (number : Nat) (outer : List Nat)
    (room : (number :: outer).length ≤ depth) (rest : List UInt8) :
    closeGroups depth (number :: outer) (s.bytes ++ rest) =
      if (number :: outer).length + s.height ≤ depth then closeGroups depth (number :: outer) rest
      else none := by
  induction s generalizing number outer rest with
  | done => rw [bytes, List.nil_append, height, Nat.add_zero, if_pos room]
  | plain field value key body others ih =>
      obtain ⟨isKey, isValue, wellFormed⟩ := wellFormed
      rw [bytes, List.append_assoc, List.append_assoc,
        closeGroups_of_plain (isKey.read _) (isValue.read _) isValue.layout_ne,
        ih wellFormed _ _ room, height]
      split_ifs <;> first | rfl | omega
  | group field first inside last others inner outside =>
      obtain ⟨isFirst, within, isLast, wellFormed⟩ := wellFormed
      rw [bytes, List.append_assoc, List.append_assoc, List.append_assoc,
        closeGroups_of_start (isFirst.read _), height]
      by_cases deeper : (number :: outer).length < depth
      · rw [if_pos deeper, inner within _ _ (Nat.succ_le_of_lt deeper),
          closeGroups_of_end (isLast.read _), outside wellFormed _ _ room]
        simp only [List.length_cons] at room deeper ⊢
        split_ifs <;> first | rfl | omega
      · rw [if_neg deeper, if_neg (by omega)]

/-- A whole spelling is read as its fields in front of what follows, unless a field stands too
deep. -/
theorem readFields_spelling (wellFormed : s.WellFormed) (room : 1 ≤ depth) (rest : List UInt8) :
    readFields depth (s.bytes ++ rest) =
      if s.height ≤ depth then (readFields depth rest).map (s.fields ++ ·) else none := by
  induction s generalizing rest with
  | done => simp [bytes, height, fields]
  | plain number value key body others ih =>
      obtain ⟨isKey, isValue, wellFormed⟩ := wellFormed
      have read := readField_of_plain depth (isKey.read (body ++ (others.bytes ++ rest)))
        isValue.layout_ne (isValue.read _)
      rw [bytes, List.append_assoc, List.append_assoc, readFields_of_readField read,
        ih wellFormed, height, fields]
      by_cases low : others.height ≤ depth
      · rw [if_pos low, if_pos (by omega), Option.map_map]
        rfl
      · rw [if_neg low, if_neg (by omega), Option.map_none]
  | group number first inside last others _ ih =>
      obtain ⟨isFirst, within, isLast, wellFormed⟩ := wellFormed
      have key := isFirst.read (inside.bytes ++ (last ++ (others.bytes ++ rest)))
      have closed := closeGroups_spelling within number [] room
        (last ++ (others.bytes ++ rest))
      rw [closeGroups_of_end (isLast.read _), closeGroups, List.length_singleton] at closed
      rw [bytes, List.append_assoc, List.append_assoc, List.append_assoc, height, fields]
      by_cases deep : 1 + inside.height ≤ depth
      · rw [if_pos deep] at closed
        have read : readField depth (first ++ (inside.bytes ++ (last ++ (others.bytes ++ rest)))) =
            some (⟨number, .group⟩, others.bytes ++ rest) := by
          simp only [readField, key, closed]
        rw [readFields_of_readField read, ih wellFormed]
        by_cases low : others.height ≤ depth
        · rw [if_pos low, if_pos (by omega), Option.map_map]
          rfl
        · rw [if_neg low, if_neg (by omega), Option.map_none]
      · rw [if_neg deep] at closed
        have unread :
          readField depth (first ++ (inside.bytes ++ (last ++ (others.bytes ++ rest)))) =
            none := by
          simp only [readField, key, closed]
        rw [readFields_of_unread (List.append_ne_nil_of_left_ne_nil isFirst.ne_nil _) unread,
          if_neg (by omega)]

end Spelling

end DuplexStream.Record
