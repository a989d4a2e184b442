import DuplexStream.Proofs.Binary64.Value
import DuplexStream.Proofs.Loss.Verdicts

/-!
# Every distinct id has a draw of its own

The draws of a layer are numbered. The first delivery of the `k`-th distinct id takes the `k`-th
draw, and no other delivery takes any, so what becomes of an id is read off its place among the
distinct ids (`Layer.decided_by_draws`). A draw is below a greater probability if it is below a
smaller one: raising the probability only turns acknowledgements into drops
(`Layer.acknowledged_antitone`).
-/

namespace DuplexStream

namespace Generator

variable {γ : Type} [Generator γ]

/-- The source after `n` draws. -/
def after (g : γ) : Nat → γ
  | 0 => g
  | n + 1 => (draw (after g n)).2

/-- The draw with number `n`. -/
def nth (g : γ) (n : Nat) : UInt64 :=
  (draw (after g n)).1

end Generator

section Fractions

/-- A draw as a fraction: its upper fifty-three bits behind the point. -/
def uniform (u : UInt64) : ℚ :=
  upperBits u / 2 ^ 53

theorem uniform_nonneg (u : UInt64) : 0 ≤ uniform u := by
  unfold uniform
  positivity

theorem uniform_lt_one (u : UInt64) : uniform u < 1 := by
  have small : upperBits u < 2 ^ 53 := by
    have word := u.toNat_lt
    have shifted : upperBits u = u.toNat / 2 ^ 11 := by
      rw [upperBits, UInt64.toNat_shiftRight, Nat.shiftRight_eq_div_pow]
      rfl
    omega
  rw [uniform, div_lt_one (by positivity)]
  exact_mod_cast small

/-- The probability that a layer works with: forced into the range from zero to one, and zero for
what is no number. -/
def lossRate (p : Binary64) : ℚ :=
  if p.isNaN then 0 else max 0 (min p.value 1)

theorem lossRate_nonneg (p : Binary64) : 0 ≤ lossRate p := by
  unfold lossRate
  split
  · exact le_rfl
  · exact le_max_left _ _

theorem value_clampUnit_eq (p : Binary64) : p.clampUnit.value = lossRate p := by
  cases number : p.isNaN with
  | true => simp [Binary64.clampUnit, lossRate, number]
  | false => rw [Binary64.value_clampUnit number, lossRate, number, if_neg Bool.false_ne_true]

theorem unitBelow_clampUnit (u : UInt64) (p : Binary64) :
    Binary64.unitBelow (upperBits u) p.clampUnit = decide (uniform u < lossRate p) := by
  rw [Bool.eq_iff_iff, decide_eq_true_iff, uniform, ← value_clampUnit_eq]
  apply Binary64.unitBelow_iff
  rw [value_clampUnit_eq]
  exact lossRate_nonneg p

theorem lossRate_le {p q : Binary64} (le : p.le q = true) : lossRate p ≤ lossRate q := by
  obtain ⟨⟨left, right⟩, _⟩ : (p.isNaN = false ∧ q.isNaN = false) ∧ p.key ≤ q.key := by
    simpa [Binary64.le] using le
  rw [lossRate, lossRate, left, right, if_neg Bool.false_ne_true, if_neg Bool.false_ne_true]
  exact max_le_max_left _ (min_le_min_right _ ((Binary64.le_iff left right).mp le))

theorem lossRate_eq_zero {p : Binary64} (lossless : p.isNaN = true ∨ p.le .zero = true) :
    lossRate p = 0 := by
  rcases lossless with noNumber | low
  · rw [lossRate, if_pos noNumber]
  · apply le_antisymm _ (lossRate_nonneg p)
    calc lossRate p ≤ lossRate .zero := lossRate_le low
      _ = 0 := by simp [lossRate]

theorem lossRate_eq_one {q : Binary64} (certain : Binary64.one.le q = true) : lossRate q = 1 := by
  apply le_antisymm
  · rw [lossRate]
    split
    · exact zero_le_one
    · exact max_le zero_le_one (min_le_right _ _)
  · have number : Binary64.one.isNaN = false := by decide
    calc (1 : ℚ) = lossRate .one := by simp [lossRate, number]
      _ ≤ lossRate q := lossRate_le certain

end Fractions

namespace Layer

variable {γ : Type} [Generator γ] {p : Binary64} {g : γ} {ids acks seen : List UInt64}
  {id : UInt64} {l : Layer γ}

section Picking

/-- The ids at the places that meet a condition. -/
def pick (meets : Nat → Bool) (ids : List UInt64) : List UInt64 :=
  (ids.zipIdx.filter fun x => meets x.2).map Prod.fst

variable {meets others : Nat → Bool}

theorem pick_concat (meets : Nat → Bool) (ids : List UInt64) (id : UInt64) :
    pick meets (ids ++ [id]) = pick meets ids ++ if meets ids.length then [id] else [] := by
  simp only [pick, List.zipIdx_append, List.filter_append, List.map_append, Nat.zero_add,
    List.zipIdx_singleton, List.filter_singleton]
  cases meets ids.length <;> rfl

theorem mem_pick : id ∈ pick meets ids ↔ ∃ k, ids[k]? = some id ∧ meets k = true := by
  simp [pick, List.mem_zipIdx_iff_getElem?]

theorem pick_sublist_pick (wider : ∀ k, meets k = true → others k = true) (ids : List UInt64) :
    (pick meets ids).Sublist (pick others ids) :=
  (List.monotone_filter_right ids.zipIdx fun x => wider x.2).map Prod.fst

theorem pick_eq_self (always : ∀ k, meets k = true) (ids : List UInt64) :
    pick meets ids = ids := by
  simp [pick, always]

theorem pick_eq_nil (never : ∀ k, meets k = false) (ids : List UInt64) :
    pick meets ids = [] := by
  simp [pick, never]

/-- Every place meets a condition or its opposite. -/
theorem length_pick_add (meets : Nat → Bool) (ids : List UInt64) :
    (pick (fun k => !meets k) ids).length + (pick meets ids).length = ids.length := by
  induction ids using List.reverseRecOn with
  | nil => rfl
  | append_singleton ids id ih =>
      rw [pick_concat, pick_concat]
      cases meets ids.length <;> simp <;> omega

end Picking

section Distinct

theorem nodup_eraseDups (ids : List UInt64) : ids.eraseDups.Nodup := by
  induction ids using List.reverseRecOn with
  | nil => exact List.nodup_nil
  | append_singleton ids id ih =>
      by_cases seen : id ∈ ids
      · rw [eraseDups_concat_of_mem seen]
        exact ih
      · rw [eraseDups_concat_of_not_mem seen]
        have fresh : id ∉ ids.eraseDups := mt List.mem_eraseDups.mp seen
        exact ih.append (List.nodup_singleton id) (List.disjoint_singleton.mpr fresh)

/-- The place of an id among the distinct ones does not depend on what is delivered later. -/
theorem getElem?_eraseDups (fresh : id ∉ seen) (rest : List UInt64) :
    (seen ++ id :: rest).eraseDups[seen.eraseDups.length]? = some id := by
  rw [List.append_cons, List.eraseDups_append, eraseDups_concat_of_not_mem fresh, List.append_assoc,
    List.getElem?_append_right (Nat.le_refl _), Nat.sub_self]
  rfl

/-- An id that has been delivered before adds no distinct id. -/
theorem eraseDups_insert (again : id ∈ seen) (rest : List UInt64) :
    (seen ++ id :: rest).eraseDups = (seen ++ rest).eraseDups := by
  have same : rest.removeAll (seen ++ [id]) = rest.removeAll seen := by
    apply List.filter_congr
    intro x _
    by_cases own : x = id
    · simp [own, again]
    · simp [own]
  calc (seen ++ id :: rest).eraseDups = (seen ++ [id] ++ rest).eraseDups := by rw [List.append_cons]
    _ = (seen ++ [id]).eraseDups ++ (rest.removeAll (seen ++ [id])).eraseDups :=
      List.eraseDups_append
    _ = seen.eraseDups ++ (rest.removeAll seen).eraseDups := by
      rw [eraseDups_concat_of_mem again, same]
    _ = (seen ++ rest).eraseDups := List.eraseDups_append.symm

end Distinct

/-- The draw with number `k` lies below the probability, so that what it decides is dropped. -/
def loses (p : Binary64) (g : γ) (k : Nat) : Bool :=
  decide (uniform (Generator.nth g k) < lossRate p)

/-- A layer that has taken one draw for each distinct id among the deliveries `ids`, in the order of
the first deliveries, and has dropped the ids whose draw was below the probability. -/
structure Drawn (p : Binary64) (g : γ) (ids acks : List UInt64) (l : Layer γ) : Prop
    extends Record ids acks l where
  probability : l.probability = p.clampUnit
  generator : l.generator = Generator.after g ids.eraseDups.length
  acks : acks = pick (fun k => !loses p g k) ids.eraseDups
  dropped : l.dropped = (pick (loses p g) ids.eraseDups).reverse
  tallyDropped : l.tally.dropped = l.dropped.length

theorem drawn_start (p : Binary64) (g : γ) : Drawn p g [] [] (start p g) where
  toRecord := record_start p g
  probability := rfl
  generator := rfl
  acks := rfl
  dropped := rfl
  tallyDropped := rfl

theorem deliver_of_decided (decided : l.isDecided id = true) : l.deliver id = (.redelivered,
    { l with tally := { l.tally with duplicates := l.tally.duplicates + 1 } }) := by
  rw [deliver, if_pos decided]

omit [Generator γ] in
theorem Record.undecided (r : Record ids acks l) (fresh : id ∉ ids) : l.isDecided id = false := by
  rw [← Bool.not_eq_true, r.decided]
  exact fresh

/-- The first delivery of an id takes the next draw. -/
theorem Drawn.first (h : Drawn p g ids acks l) (fresh : id ∉ ids) :
    l.deliver id =
      if loses p g ids.eraseDups.length then
        (.dropped, { l with
          generator := Generator.after g (ids.eraseDups.length + 1)
          dropped := id :: l.dropped
          tally := { l.tally with dropped := l.tally.dropped + 1 } })
      else
        (.acknowledged, { l with
          generator := Generator.after g (ids.eraseDups.length + 1)
          acked := id :: l.acked
          tally := { l.tally with acked := l.tally.acked + 1 } }) := by
  simp only [deliver, h.undecided fresh, Bool.false_eq_true, if_false, h.generator, h.probability,
    unitBelow_clampUnit]
  rfl

/-- A delivery keeps a layer's account of its draws. -/
theorem Drawn.deliver (h : Drawn p g ids acks l) (id : UInt64) :
    Drawn p g (ids ++ [id]) (acks ++ ackOf (l.deliver id).1 id) (l.deliver id).2 := by
  have record := h.toRecord.deliver id
  -- the account moves only where the list of distinct ids grows
  have place : (ids.eraseDups ++ [id]).length = ids.eraseDups.length + 1 := by simp
  by_cases again : id ∈ ids
  · rw [deliver_of_decided ((h.decided id).mpr again)] at record ⊢
    have same := eraseDups_concat_of_mem again
    exact ⟨record, h.probability, by rw [same]; exact h.generator, by simp [ackOf, same, h.acks],
      by rw [same]; exact h.dropped, h.tallyDropped⟩
  · have longer := eraseDups_concat_of_not_mem again
    rw [h.first again] at record ⊢
    cases lost : loses p g ids.eraseDups.length with
    | true =>
        rw [lost] at record
        refine ⟨record, h.probability, ?_, ?_, ?_, ?_⟩
        · rw [longer, place]
          rfl
        · rw [longer, pick_concat, lost, h.acks]
          rfl
        · rw [longer, pick_concat, lost]
          simp [h.dropped]
        · simp [h.tallyDropped]
    | false =>
        rw [lost] at record
        refine ⟨record, h.probability, ?_, ?_, ?_, h.tallyDropped⟩
        · rw [longer, place]
          rfl
        · rw [longer, pick_concat, lost, h.acks]
          rfl
        · rw [longer, pick_concat, lost]
          simp [h.dropped]

/-- After any deliveries to a fresh layer. -/
theorem drawn_deliverAll (p : Binary64) (g : γ) (ids : List UInt64) :
    Drawn p g ids ((start p g).deliverAll ids).1 ((start p g).deliverAll ids).2 := by
  induction ids using List.reverseRecOn with
  | nil => exact drawn_start p g
  | append_singleton ids id ih =>
      rw [deliverAll_concat]
      exact ih.deliver id

/-- What a layer amounts to after the deliveries `ids`, read off the distinct ids and the draws. -/
structure Reckoning (p : Binary64) (g : γ) (ids acks : List UInt64) (l : Layer γ) : Prop where
  /-- The acknowledgements stand in the order of the first deliveries. -/
  order : acks = pick (fun k => !loses p g k) ids.eraseDups
  /-- The `k`-th distinct id is acknowledged unless its draw is below the probability. -/
  acked : ∀ k id, ids.eraseDups[k]? = some id →
    (l.hasAcked id = true ↔ ¬ uniform (Generator.nth g k) < lossRate p)
  returned : ∀ id, l.hasAcked id = true ↔ id ∈ acks
  once : l.acked.Nodup
  size : l.acked.length = l.tally.acked
  disjoint : ∀ id ∈ l.acked, id ∉ l.dropped
  decided : ∀ id, id ∈ l.acked ∨ id ∈ l.dropped ↔ id ∈ ids
  total : l.tally.acked + l.tally.dropped = ids.eraseDups.length
  duplicates : l.tally.duplicates + ids.eraseDups.length = ids.length

theorem Drawn.reckoning (drawn : Drawn p g ids acks l) : Reckoning p g ids acks l := by
  have returned (id : UInt64) : l.hasAcked id = true ↔ id ∈ acks := by
    simp [hasAcked, drawn.acked]
  have total : l.tally.acked + l.tally.dropped = ids.eraseDups.length := by
    rw [drawn.tallyAcked, drawn.tallyDropped, drawn.dropped, List.length_reverse, drawn.acks,
      length_pick_add]
  refine ⟨drawn.acks, fun k id place => ?_, returned, ?_, ?_, fun id mem => ?_, fun id => ?_, total,
    ?_⟩
  · have only (k' : Nat) (same : ids.eraseDups[k']? = some id) : k' = k := by
      obtain ⟨inside, _⟩ := List.getElem?_eq_some_iff.mp same
      exact (List.getElem?_inj inside (nodup_eraseDups ids)).mp (same.trans place.symm)
    rw [returned, drawn.acks, mem_pick]
    constructor
    · rintro ⟨k', same, spared⟩
      obtain rfl := only k' same
      simpa [loses] using spared
    · intro spared
      exact ⟨k, place, by simpa [loses] using spared⟩
  · rw [drawn.acked]
    exact List.nodup_reverse.mpr drawn.nodup
  · rw [drawn.acked, List.length_reverse, drawn.tallyAcked]
  · rw [drawn.acked, List.mem_reverse] at mem
    exact drawn.notDropped id mem
  · rw [← drawn.decided, isDecided_iff]
  · have whole := drawn.tallyTotal
    omega

theorem reckoning_deliverAll (p : Binary64) (g : γ) (ids : List UInt64) :
    Reckoning p g ids ((start p g).deliverAll ids).1 ((start p g).deliverAll ids).2 :=
  (drawn_deliverAll p g ids).reckoning

/-- The distinct ids determine a layer up to the number of duplicates. -/
theorem Drawn.eq_of_same {others acks' : List UInt64} {l' : Layer γ}
    (drawn : Drawn p g ids acks l) (drawn' : Drawn p g others acks' l')
    (same : ids.eraseDups = others.eraseDups) :
    acks = acks' ∧
      l = { l' with tally := { l'.tally with duplicates := l.tally.duplicates } } := by
  -- every field but the duplicates is a function of the distinct ids and the draws
  have acks_eq : acks = acks' := by rw [drawn.acks, drawn'.acks, same]
  have dropped : l.dropped = l'.dropped := by rw [drawn.dropped, drawn'.dropped, same]
  have acked : l.acked = l'.acked := by rw [drawn.acked, drawn'.acked, acks_eq]
  have generator : l.generator = l'.generator := by
    rw [drawn.generator, drawn'.generator, same]
  have probability : l.probability = l'.probability := by
    rw [drawn.probability, drawn'.probability]
  have tallyAcked : l.tally.acked = l'.tally.acked := by
    rw [drawn.tallyAcked, drawn'.tallyAcked, acks_eq]
  have tallyDropped : l.tally.dropped = l'.tally.dropped := by
    rw [drawn.tallyDropped, drawn'.tallyDropped, dropped]
  refine ⟨acks_eq, ?_⟩
  obtain ⟨_, _, _, _, _, _, _⟩ := l
  simp_all

/-- A redelivery changes the number of duplicates and nothing else, whatever is delivered before and
after it. -/
theorem deliverAll_insert (p : Binary64) (g : γ) (again : id ∈ seen) (rest : List UInt64) :
    let without := (start p g).deliverAll (seen ++ rest)
    (start p g).deliverAll (seen ++ id :: rest) =
      (without.1, { without.2 with
        tally := { without.2.tally with duplicates := without.2.tally.duplicates + 1 } }) := by
  intro without
  have same := eraseDups_insert again rest
  obtain ⟨acks, layer⟩ := (drawn_deliverAll p g (seen ++ id :: rest)).eq_of_same
    (drawn_deliverAll p g (seen ++ rest)) same
  have more := (reckoning_deliverAll p g (seen ++ id :: rest)).duplicates
  have fewer := (reckoning_deliverAll p g (seen ++ rest)).duplicates
  have counted : ((start p g).deliverAll (seen ++ id :: rest)).2.tally.duplicates =
      without.2.tally.duplicates + 1 := by
    rw [same] at more
    simp only [List.length_append, List.length_cons] at more fewer
    simp only [without]
    omega
  rw [counted] at layer
  exact Prod.ext acks layer

/-- The draws decide the distinct ids one by one. Before a delivery as many draws have been taken as
there are distinct ids so far. A redelivery is only counted; the first delivery of an id takes one
draw, and drops the id if that draw is below the probability. What the layer amounts to after all
deliveries is read off the draws, and a redelivery more or less changes no decision. -/
theorem decided_by_draws (p : Binary64) (g : γ) :
    (∀ seen id,
      let l := ((start p g).deliverAll seen).2
      let k := seen.eraseDups.length
      l.generator = Generator.after g k ∧
      (id ∈ seen → l.deliver id = (.redelivered,
        { l with tally := { l.tally with duplicates := l.tally.duplicates + 1 } })) ∧
      (id ∉ seen →
        (∀ rest, (seen ++ id :: rest).eraseDups[k]? = some id) ∧
        (l.deliver id).1 =
          (if uniform (Generator.nth g k) < lossRate p then .dropped else .acknowledged) ∧
        (l.deliver id).2.generator = Generator.after g (k + 1))) ∧
    (∀ ids, Reckoning p g ids ((start p g).deliverAll ids).1 ((start p g).deliverAll ids).2) ∧
    (∀ seen id rest, id ∈ seen →
      let without := (start p g).deliverAll (seen ++ rest)
      (start p g).deliverAll (seen ++ id :: rest) =
        (without.1, { without.2 with
          tally := { without.2.tally with duplicates := without.2.tally.duplicates + 1 } })) := by
  refine ⟨fun seen id => ?_, reckoning_deliverAll p g,
    fun seen id rest again => deliverAll_insert p g again rest⟩
  have drawn := drawn_deliverAll p g seen
  refine ⟨drawn.generator, fun again => ?_, fun fresh => ⟨getElem?_eraseDups fresh, ?_⟩⟩
  · exact deliver_of_decided ((drawn.decided id).mpr again)
  · rw [drawn.first fresh]
    simp only [loses, decide_eq_true_eq]
    split <;> exact ⟨rfl, rfl⟩

/-- Draws of zero and of one half in turn, against one half: the draw that meets the probability
does not drop its id, and the redelivery of the first id leaves the third draw to the next one. -/
theorem decided_by_draws_half :
    let g : Progression := ⟨0, 0x8000000000000000⟩
    let half : Binary64 := ⟨0x3FE0000000000000⟩
    let seen : List UInt64 := [7, 9]
    let l := ((start half g).deliverAll seen).2
    7 ∈ seen ∧ (l.deliver 7).1 = .redelivered ∧ 3 ∉ seen ∧ (l.deliver 3).1 = .dropped ∧
      uniform (Generator.nth g 1) = lossRate half ∧
      ((start half g).deliverAll [7, 9, 7, 3]).1 = [9] ∧
      ((start half g).deliverAll [7, 9, 3]).1 = [9] := by
  intro g half seen l
  obtain ⟨each, after, insert⟩ := decided_by_draws half g
  have seven : 7 ∈ seen := by decide
  have three : 3 ∉ seen := by decide
  have low : uniform (Generator.nth g 2) < lossRate half := by decide +kernel
  have order : ((start half g).deliverAll [7, 9, 3]).1 = [9] := by
    rw [(after [7, 9, 3]).order]
    decide +kernel
  refine ⟨seven, ?_, three, ?_, by decide +kernel, ?_, order⟩
  · rw [(each seen 7).2.1 seven]
  · rw [((each seen 3).2.2 three).2.1]
    exact if_pos low
  · have same := congrArg Prod.fst (insert seen 7 [3] seven)
    exact same.trans order

/-- A greater probability acknowledges fewer ids, in the same order and with as many duplicates and
decisions. With a probability of at most zero, or none, every distinct id is acknowledged; with one
of at least one, none is. -/
theorem acknowledged_antitone (g : γ) (ids : List UInt64) :
    (∀ p q : Binary64, p.le q = true →
      let lower := (start p g).deliverAll ids
      let higher := (start q g).deliverAll ids
      higher.1.Sublist lower.1 ∧
      higher.2.tally.duplicates = lower.2.tally.duplicates ∧
      higher.2.tally.acked + higher.2.tally.dropped =
        lower.2.tally.acked + lower.2.tally.dropped) ∧
    (∀ p : Binary64, p.isNaN = true ∨ p.le .zero = true →
      ((start p g).deliverAll ids).1 = ids.eraseDups) ∧
    (∀ q : Binary64, Binary64.one.le q = true → ((start q g).deliverAll ids).1 = []) := by
  refine ⟨fun p q le => ⟨?_, ?_, ?_⟩, fun p lossless => ?_, fun q certain => ?_⟩
  · have order := (reckoning_deliverAll q g ids).order
    rw [order, (reckoning_deliverAll p g ids).order]
    apply pick_sublist_pick
    intro k spared
    simp only [loses, Bool.not_eq_true', decide_eq_false_iff_not, not_lt] at spared ⊢
    exact (lossRate_le le).trans spared
  · have lower := (reckoning_deliverAll p g ids).duplicates
    have higher := (reckoning_deliverAll q g ids).duplicates
    exact Nat.add_right_cancel (higher.trans lower.symm)
  · rw [(reckoning_deliverAll p g ids).total, (reckoning_deliverAll q g ids).total]
  · rw [(reckoning_deliverAll p g ids).order]
    apply pick_eq_self
    intro k
    have rate : lossRate p = 0 := lossRate_eq_zero lossless
    simp [loses, rate, uniform_nonneg]
  · rw [(reckoning_deliverAll q g ids).order]
    apply pick_eq_nil
    intro k
    have rate : lossRate q = 1 := lossRate_eq_one certain
    simp [loses, rate, uniform_lt_one]

/-- Negative zero, one half, and infinity with the greatest draw. -/
theorem acknowledged_antitone_infinite :
    let g : Progression := ⟨0xFFFFFFFFFFFFFFFF, 1⟩
    let half : Binary64 := ⟨0x3FE0000000000000⟩
    let nothing : Binary64 := ⟨0x8000000000000000⟩
    let certain := Binary64.infinity false
    half.le certain = true ∧
      ((start certain g).deliverAll [4, 4, 5]).1.Sublist ((start half g).deliverAll [4, 4, 5]).1 ∧
      nothing.le .zero = true ∧ ((start nothing g).deliverAll [4, 4, 5]).1 = [4, 5] ∧
      Binary64.one.le certain = true ∧ ((start certain g).deliverAll [4, 4, 5]).1 = [] := by
  intro g half nothing certain
  obtain ⟨fewer, all, none⟩ := acknowledged_antitone g [4, 4, 5]
  have le : half.le certain = true := by decide
  have low : nothing.le .zero = true := by decide
  have high : Binary64.one.le certain = true := by decide
  refine ⟨le, (fewer half certain le).1, low, ?_, high, none certain high⟩
  rw [all nothing (Or.inr low)]
  decide

end Layer

end DuplexStream
