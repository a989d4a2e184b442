import DuplexStream.Loss.Layer
import Mathlib.Data.List.Nodup
import Mathlib.Data.List.Induction

/-!
# Verdicts of a layer

What a layer has decided after a list of deliveries. `Layer.Record` ties the ids delivered so far,
the acknowledgements produced on the way and the state of the layer together; every delivery keeps
it, so it holds after any list of deliveries to a fresh layer.
-/

namespace DuplexStream.Layer

variable {γ : Type} [Generator γ]

omit [Generator γ] in
theorem isDecided_iff (l : Layer γ) (id : UInt64) :
    l.isDecided id = true ↔ id ∈ l.acked ∨ id ∈ l.dropped := by
  simp [isDecided]

/-- A delivery has one of three verdicts, and each says what becomes of the layer. -/
theorem deliver_cases (l : Layer γ) (id : UInt64) :
    (l.isDecided id = true ∧ l.deliver id = (.redelivered,
      { l with tally := { l.tally with duplicates := l.tally.duplicates + 1 } })) ∨
    (l.isDecided id = false ∧ ∃ g, l.deliver id = (.dropped,
      { l with
        generator := g
        dropped := id :: l.dropped
        tally := { l.tally with dropped := l.tally.dropped + 1 } })) ∨
    (l.isDecided id = false ∧ ∃ g, l.deliver id = (.acknowledged,
      { l with
        generator := g
        acked := id :: l.acked
        tally := { l.tally with acked := l.tally.acked + 1 } })) := by
  cases hd : l.isDecided id with
  | true => exact Or.inl ⟨rfl, by simp [deliver, hd]⟩
  | false =>
      right
      by_cases hu : Binary64.unitBelow (upperBits (Generator.draw l.generator).1) l.probability
      · exact Or.inl ⟨rfl, (Generator.draw l.generator).2, by simp [deliver, hd, hu]⟩
      · exact Or.inr ⟨rfl, (Generator.draw l.generator).2, by simp [deliver, hd, hu]⟩

/-- The acknowledgement that a verdict leads to. -/
def ackOf (verdict : Verdict) (id : UInt64) : List UInt64 :=
  if verdict = .acknowledged then [id] else []

theorem deliverAll_cons (l : Layer γ) (id : UInt64) (ids : List UInt64) :
    l.deliverAll (id :: ids) =
      (ackOf (l.deliver id).1 id ++ ((l.deliver id).2.deliverAll ids).1,
        ((l.deliver id).2.deliverAll ids).2) := by
  simp only [deliverAll, ackOf]
  split <;> simp

theorem deliverAll_append (l : Layer γ) (ids more : List UInt64) :
    l.deliverAll (ids ++ more) =
      ((l.deliverAll ids).1 ++ ((l.deliverAll ids).2.deliverAll more).1,
        ((l.deliverAll ids).2.deliverAll more).2) := by
  induction ids generalizing l with
  | nil => simp [deliverAll]
  | cons id ids ih => simp [deliverAll_cons, ih, List.append_assoc]

/-- The last of several deliveries. -/
theorem deliverAll_concat (l : Layer γ) (ids : List UInt64) (id : UInt64) :
    l.deliverAll (ids ++ [id]) =
      ((l.deliverAll ids).1 ++ ackOf ((l.deliverAll ids).2.deliver id).1 id,
        ((l.deliverAll ids).2.deliver id).2) := by
  rw [deliverAll_append, deliverAll_cons]
  simp [deliverAll]

/-- What a layer has decided: `acks` are the acknowledgements produced on the deliveries `ids`. -/
structure Record (ids acks : List UInt64) (l : Layer γ) : Prop where
  acked : l.acked = acks.reverse
  decided : ∀ id, l.isDecided id = true ↔ id ∈ ids
  nodup : acks.Nodup
  notDropped : ∀ id ∈ acks, id ∉ l.dropped
  firsts : acks.Sublist ids.eraseDups
  tallyAcked : l.tally.acked = acks.length
  tallyTotal : l.tally.acked + l.tally.dropped + l.tally.duplicates = ids.length

omit [Generator γ] in
theorem record_start (p : Binary64) (g : γ) : Record [] [] (start p g) where
  acked := rfl
  decided := by simp [start, isDecided]
  nodup := List.nodup_nil
  notDropped := by simp
  firsts := by simp
  tallyAcked := rfl
  tallyTotal := rfl

theorem eraseDups_concat_of_mem {ids : List UInt64} {id : UInt64} (h : id ∈ ids) :
    (ids ++ [id]).eraseDups = ids.eraseDups := by
  simp [List.eraseDups_append, List.removeAll, h]

theorem eraseDups_concat_of_not_mem {ids : List UInt64} {id : UInt64} (h : id ∉ ids) :
    (ids ++ [id]).eraseDups = ids.eraseDups ++ [id] := by
  simp [List.eraseDups_append, List.removeAll, h, List.eraseDups_cons]

section Delivery

variable {ids acks : List UInt64} {l : Layer γ} {id : UInt64}

omit [Generator γ] in
theorem Record.fresh (h : Record ids acks l) (undecided : l.isDecided id = false) :
    id ∉ ids ∧ id ∉ acks ∧ id ∉ l.dropped := by
  have unlisted := (l.isDecided_iff id).not.mp (by simp [undecided])
  refine ⟨fun listed => ?_, by simpa [h.acked, not_or] using unlisted⟩
  simp [(h.decided id).mpr listed] at undecided

omit [Generator γ] in
theorem Record.again (h : Record ids acks l) (decided : l.isDecided id = true) :
    Record (ids ++ [id]) acks
      { l with tally := { l.tally with duplicates := l.tally.duplicates + 1 } } where
  acked := h.acked
  decided x := by
    rw [List.mem_append, List.mem_singleton, ← h.decided x]
    constructor
    · exact Or.inl
    · rintro (hx | rfl)
      · exact hx
      · exact decided
  nodup := h.nodup
  notDropped := h.notDropped
  firsts := by
    rw [eraseDups_concat_of_mem ((h.decided id).mp decided)]
    exact h.firsts
  tallyAcked := h.tallyAcked
  tallyTotal := by
    have := h.tallyTotal
    simp only [List.length_append, List.length_singleton]
    omega

omit [Generator γ] in
theorem Record.dropping (h : Record ids acks l) (undecided : l.isDecided id = false) (g : γ) :
    Record (ids ++ [id]) acks
      { l with
        generator := g
        dropped := id :: l.dropped
        tally := { l.tally with dropped := l.tally.dropped + 1 } } where
  acked := h.acked
  decided x := by
    have hx := h.decided x
    simp only [isDecided_iff] at hx
    simp only [isDecided_iff, List.mem_cons, List.mem_append, ← hx]
    tauto
  nodup := h.nodup
  notDropped x hx := by
    rw [List.mem_cons, not_or]
    exact ⟨fun same => (h.fresh undecided).2.1 (same ▸ hx), h.notDropped x hx⟩
  firsts := by
    rw [eraseDups_concat_of_not_mem (h.fresh undecided).1]
    exact h.firsts.trans (List.sublist_append_left _ _)
  tallyAcked := h.tallyAcked
  tallyTotal := by
    have := h.tallyTotal
    simp only [List.length_append, List.length_singleton]
    omega

omit [Generator γ] in
theorem Record.acknowledging (h : Record ids acks l) (undecided : l.isDecided id = false) (g : γ) :
    Record (ids ++ [id]) (acks ++ [id])
      { l with
        generator := g
        acked := id :: l.acked
        tally := { l.tally with acked := l.tally.acked + 1 } } where
  acked := by simp [h.acked]
  decided x := by
    have hx := h.decided x
    simp only [isDecided_iff] at hx
    simp only [isDecided_iff, List.mem_cons, List.mem_append, ← hx]
    tauto
  nodup := h.nodup.append (List.nodup_singleton id)
    (List.disjoint_singleton.mpr (h.fresh undecided).2.1)
  notDropped x hx := by
    rcases List.mem_append.mp hx with hx | hx
    · exact h.notDropped x hx
    · rw [List.mem_singleton.mp hx]
      exact (h.fresh undecided).2.2
  firsts := by
    rw [eraseDups_concat_of_not_mem (h.fresh undecided).1]
    exact h.firsts.append (List.Sublist.refl _)
  tallyAcked := by simp [h.tallyAcked]
  tallyTotal := by
    have := h.tallyTotal
    simp only [List.length_append, List.length_singleton]
    omega

/-- A delivery keeps the record. -/
theorem Record.deliver (h : Record ids acks l) (id : UInt64) :
    Record (ids ++ [id]) (acks ++ ackOf (l.deliver id).1 id) (l.deliver id).2 := by
  rcases l.deliver_cases id with ⟨decided, he⟩ | ⟨undecided, g, he⟩ | ⟨undecided, g, he⟩ <;>
    simp only [he, ackOf, reduceCtorEq, if_false, if_true, List.append_nil]
  · exact h.again decided
  · exact h.dropping undecided g
  · exact h.acknowledging undecided g

end Delivery

/-- After any deliveries to a fresh layer. -/
theorem record_deliverAll (p : Binary64) (g : γ) (ids : List UInt64) :
    Record ids ((start p g).deliverAll ids).1 ((start p g).deliverAll ids).2 := by
  induction ids using List.reverseRecOn with
  | nil => exact record_start p g
  | append_singleton ids id ih =>
      rw [deliverAll_concat]
      exact ih.deliver id

end DuplexStream.Layer
