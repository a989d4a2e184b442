import DuplexStream.Proofs.Exchange.Rehearsal

/-!
# Taking what is there

A receiver that never waits only takes what it finds. It finds all that is queued, in order, and the
senders go on as if nobody had looked, but for the places that have become free.
-/

namespace DuplexStream.Exchange

variable {α : Type} {x x' : Exchange α} {m : Move α} {answer : Answer α}

/-- The receiver is there and does not wait. -/
structure Idle (x : Exchange α) : Prop where
  sound : x.Sound
  listening : x.queue.listening = true
  free : x.deadline = none

section Idle

theorem idle_ofCapacity (capacity : Nat) : Idle (ofCapacity (α := α) capacity) :=
  ⟨sound_ofCapacity capacity, rfl, rfl⟩

/-- A sender's move gives nothing to the receiver and does not make it wait. -/
theorem Makes.idle (makes : x.Makes m answer x') (idle : x.Idle) (sender : m.isSenders = true) :
    answer.received? = none ∧ x'.Idle := by
  have sound := idle.sound.makes makes
  cases makes with
  | item asks | closed asks | timedOut asks | goesOn asks =>
      cases asks <;> simp [Move.isSenders] at sender
  | receiverDropped | passed => simp [Move.isSenders] at sender
  | _ => exact ⟨rfl, sound, idle.listening, idle.free⟩

theorem Asks.deadline_eq {wait : Duration} {deadline : Nat}
    (asks : x.Asks (.receive wait) deadline) :
    deadline = x.now + wait.ticks := by
  cases asks with
  | receive => rfl

/-- A look without waiting gives the first item, or nothing if nothing is queued. -/
theorem Idle.receive (idle : x.Idle) :
    (x.receive (.ofMillis 0)).2.Idle ∧
      ((∃ a rest, x.queue.items = a :: rest ∧ (x.receive (.ofMillis 0)).1 = .item a ∧
        (x.receive (.ofMillis 0)).2.queue.items = rest) ∨
      (x.queue.items = [] ∧ (x.receive (.ofMillis 0)).1.received? = none ∧
        (x.receive (.ofMillis 0)).2.queue.items = [])) := by
  have makes : x.Makes (.receive (.ofMillis 0)) (x.receive (.ofMillis 0)).1
      (x.receive (.ofMillis 0)).2 := makes_step idle.sound (.receive (.ofMillis 0))
  generalize x.receive (.ofMillis 0) = made at makes
  obtain ⟨answer, x'⟩ := made
  have sound : x'.Sound := idle.sound.makes makes
  cases makes with
  | impossible senseless => exact absurd ⟨idle.listening, idle.free⟩ senseless
  | item _ queued => exact ⟨⟨sound, idle.listening, rfl⟩, .inl ⟨_, _, queued, rfl, rfl⟩⟩
  | closed _ empty | timedOut _ empty =>
      exact ⟨⟨sound, idle.listening, rfl⟩, .inr ⟨empty, rfl, empty⟩⟩
  | goesOn asks _ _ early =>
      rw [asks.deadline_eq, Duration.ticks_ofMillis] at early
      exact absurd early (Nat.lt_irrefl _)

/-- What the receiver takes has been handed over to it. -/
theorem handsOver_takeUpTo (x : Exchange α) (n : Nat) :
    HandsOver x [] (x.takeUpTo n).1 (x.takeUpTo n).2 := by
  induction n generalizing x with
  | zero => exact .refl x
  | succ n ih =>
      have first := HandsOver.step x (.receive (.ofMillis 0))
      simp only [step, x.completed?_receive] at first
      unfold takeUpTo
      generalize x.receive (.ofMillis 0) = made at first
      obtain ⟨answer, next⟩ := made
      cases answer with
      | item a => exact first.trans (ih next)
      | _ => exact first

theorem Idle.takeUpTo (idle : x.Idle) {n : Nat} (enough : x.queue.items.length < n) :
    (x.takeUpTo n).1 = x.queue.items ∧ (x.takeUpTo n).2.queue.items = [] ∧
      (x.takeUpTo n).2.Idle := by
  induction n generalizing x with
  | zero => exact absurd enough (Nat.not_lt_zero _)
  | succ n ih =>
      obtain ⟨idle', rest⟩ := idle.receive
      rw [Exchange.takeUpTo]
      rcases made : x.receive (.ofMillis 0) with ⟨answer, next⟩
      simp only [made] at idle' rest
      rcases rest with ⟨a, rest, queued, rfl, left⟩ | ⟨empty, nothing, left⟩
      · have fewer : next.queue.items.length < n := by
          rw [queued, List.length_cons] at enough
          rw [left]
          exact Nat.lt_of_succ_lt_succ enough
        obtain ⟨taken, emptied, still⟩ := ih idle' fewer
        refine ⟨?_, emptied, still⟩
        rw [queued, ← left, ← taken]
      · cases answer with
        | item a => exact absurd nothing nofun
        | _ => exact ⟨empty.symm, left, idle'⟩

/-- The receiver finds all that is queued. -/
theorem Idle.takeAll (idle : x.Idle) :
    x.takeAll.1 = x.queue.items ∧ x.takeAll.2.queue.items = [] ∧ x.takeAll.2.Idle :=
  idle.takeUpTo (Nat.lt_succ_self _)

end Idle

end DuplexStream.Exchange
