import DuplexStream.Exchange
import Mathlib.Data.List.Basic

/-!
# The moves of an exchange

What each move can do, case by case, and what moves keep. `Exchange.Makes` says everything about
`Exchange.step` that later modules use; nothing after this module unfolds it.
-/

namespace DuplexStream.Exchange

variable {α : Type} {x x' : Exchange α} {m : Move α} {answer : Answer α}

/-- A move makes sense where it comes. -/
def Possible (x : Exchange α) : Move α → Prop
  | .send _ => 0 < x.queue.senders
  | .resume i => i < x.waiting.length
  | .abandon i => i < x.waiting.length
  | .receive _ => x.queue.listening = true ∧ x.deadline = none
  | .look => x.deadline.isSome
  | .addSender => 0 < x.queue.senders
  | .dropSender => 0 < x.queue.senders ∧ (x.queue.senders = 1 → x.waiting = [])
  | .dropReceiver => x.queue.listening = true ∧ x.deadline = none
  | .passTo _ => True

/-- A move has the receiver look for an item, which it waits for up to a deadline. -/
inductive Asks (x : Exchange α) : Move α → Nat → Prop
  | receive (wait : Duration) (listening : x.queue.listening = true) (free : x.deadline = none) :
      Asks x (.receive wait) (x.now + wait.ticks)
  | look {deadline : Nat} (waits : x.deadline = some deadline) : Asks x .look deadline

/-- A move has a sender try to hand over an item. -/
inductive Offers (x : Exchange α) : Move α → α → Prop
  | send (a : α) (held : 0 < x.queue.senders) : Offers x (.send a) a
  | resume {i : Nat} {a : α} (waits : x.waiting[i]? = some a) : Offers x (.resume i) a

/-- All that a move can do, with its answer. -/
inductive Makes (x : Exchange α) : Move α → Answer α → Exchange α → Prop
  | impossible {m : Move α} (senseless : ¬ x.Possible m) : Makes x m .impossible x
  | sent (a : α) (held : 0 < x.queue.senders) (listening : x.queue.listening = true)
      (room : x.queue.items.length + x.kept < x.queue.capacity) :
      Makes x (.send a) (.sent a)
        { x with queue := { x.queue with items := x.queue.items ++ [a] }, called := true }
  | parked (a : α) (held : 0 < x.queue.senders) (listening : x.queue.listening = true)
      (full : x.queue.capacity ≤ x.queue.items.length + x.kept) :
      Makes x (.send a) .waits { x with waiting := x.waiting ++ [a] }
  | turnedAway (a : α) (held : 0 < x.queue.senders) (gone : x.queue.listening = false) :
      Makes x (.send a) (.streamClosed a) x
  | resumed {i : Nat} {a : α} (waits : x.waiting[i]? = some a)
      (listening : x.queue.listening = true) (place : i < x.kept) :
      Makes x (.resume i) (.sent a)
        { x with
          queue := { x.queue with items := x.queue.items ++ [a] }
          waiting := x.waiting.eraseIdx i
          kept := x.kept - 1
          called := true }
  | stillWaits {i : Nat} {a : α} (waits : x.waiting[i]? = some a)
      (listening : x.queue.listening = true) (noPlace : x.kept ≤ i) : Makes x (.resume i) .waits x
  | sentAway {i : Nat} {a : α} (waits : x.waiting[i]? = some a)
      (gone : x.queue.listening = false) : Makes x (.resume i) (.streamClosed a) (x.withdraw i)
  | abandoned {i : Nat} {a : α} (waits : x.waiting[i]? = some a) :
      Makes x (.abandon i) (.abandoned a) (x.withdraw i)
  | item {m : Move α} {deadline : Nat} {a : α} {rest : List α} (asks : x.Asks m deadline)
      (queued : x.queue.items = a :: rest) :
      Makes x m (.item a)
        { x with
          queue := { x.queue with items := rest }
          kept := min (x.kept + 1) x.waiting.length
          deadline := none }
  | closed {m : Move α} {deadline : Nat} (asks : x.Asks m deadline) (empty : x.queue.items = [])
      (alone : x.queue.senders = 0) : Makes x m .closed { x with deadline := none }
  | timedOut {m : Move α} {deadline : Nat} (asks : x.Asks m deadline) (empty : x.queue.items = [])
      (held : 0 < x.queue.senders) (due : deadline ≤ x.now) :
      Makes x m .timedOut { x with deadline := none }
  | goesOn {m : Move α} {deadline : Nat} (asks : x.Asks m deadline) (empty : x.queue.items = [])
      (held : 0 < x.queue.senders) (early : x.now < deadline) :
      Makes x m .waits { x with deadline := some deadline, called := false }
  | senderAdded (held : 0 < x.queue.senders) :
      Makes x .addSender .senderAdded { x with queue := x.queue.addSender }
  | senderDropped (held : 0 < x.queue.senders) (idle : x.queue.senders = 1 → x.waiting = []) :
      Makes x .dropSender .senderDropped
        { x with
          queue := x.queue.dropSender
          called := x.called || decide (x.queue.senders = 1) }
  | receiverDropped (listening : x.queue.listening = true) (free : x.deadline = none) :
      Makes x .dropReceiver .receiverDropped { x with queue := x.queue.hangUp }
  | passed (tick : Nat) : Makes x (.passTo tick) .passed (x.passTo tick)

/-- What holds of an exchange at all times. -/
structure Sound (x : Exchange α) : Prop where
  /-- A place that is kept is there. -/
  room : x.queue.items.length + x.kept ≤ x.queue.capacity
  /-- Places are kept for sends that wait only. -/
  kept_le : x.kept ≤ x.waiting.length
  /-- While a send waits without a place, no place is left to nobody. -/
  busy : x.queue.listening = true → x.kept < x.waiting.length →
    x.queue.items.length + x.kept = x.queue.capacity
  /-- A send that waits is the send of a sender. -/
  held : x.waiting ≠ [] → 0 < x.queue.senders
  /-- A receive that waits is the receive of the receiver. -/
  listening : x.deadline.isSome → x.queue.listening = true
  /-- Nothing is queued for a receiver that is gone. -/
  drained : x.queue.listening = false → x.queue.items = []
  /-- A receive that could be answered has been called. -/
  called : x.deadline.isSome → (x.queue.items ≠ [] ∨ x.queue.senders = 0) → x.called = true
  /-- No deadline is passed over. -/
  timely : ∀ deadline, x.deadline = some deadline → x.now ≤ deadline

theorem sound_ofCapacity (capacity : Nat) : Sound (ofCapacity (α := α) capacity) := by
  constructor <;> simp [ofCapacity, Queue.ofCapacity]

section Steps

/-- The receiver's look is one of four moves. -/
theorem makes_poll {deadline : Nat} (asks : x.Asks m deadline) :
    x.Makes m (x.poll deadline).1 (x.poll deadline).2 := by
  rcases x.queue.receive_cases with ⟨a, rest, queued, he⟩ | ⟨empty, alone, he⟩ | ⟨empty, held, he⟩
  · simpa only [poll, he] using .item asks queued
  · simpa only [poll, he] using .closed asks empty alone
  · by_cases due : deadline ≤ x.now
    · simpa only [poll, he, if_pos due] using .timedOut asks empty held due
    · simpa only [poll, he, if_neg due] using .goesOn asks empty held (Nat.lt_of_not_le due)

theorem makes_send (a : α) : x.Makes (.send a) (x.send a).1 (x.send a).2 := by
  by_cases held : 0 < x.queue.senders
  · have shared : x.queue.senders ≠ 0 := by omega
    rcases x.queue.send_cases a with ⟨gone, he⟩ | ⟨listening, _, he⟩ | ⟨listening, full, he⟩
    · simpa only [send, if_neg shared, he] using .turnedAway a held gone
    · by_cases room : x.queue.items.length + x.kept < x.queue.capacity
      · simpa only [send, if_neg shared, he, hasRoom, decide_eq_true room] using
          .sent a held listening room
      · simpa only [send, if_neg shared, he, hasRoom, decide_eq_false room] using
          .parked a held listening (Nat.le_of_not_lt room)
    · simpa only [send, if_neg shared, he] using
        .parked a held listening (Nat.le_add_right_of_le full)
  · simpa only [send, if_pos (Nat.eq_zero_of_not_pos held)] using .impossible held

theorem makes_resume (sound : x.Sound) (i : Nat) :
    x.Makes (.resume i) (x.resume i).1 (x.resume i).2 := by
  cases waits : x.waiting[i]? with
  | none =>
      have beyond : ¬ i < x.waiting.length := Nat.not_lt.2 (List.getElem?_eq_none_iff.1 waits)
      simpa only [resume, waits] using .impossible beyond
  | some a =>
      rcases x.queue.send_cases a with ⟨gone, he⟩ | ⟨listening, _, he⟩ | ⟨listening, full, he⟩
      · simpa only [resume, waits, he] using .sentAway waits gone
      · by_cases place : i < x.kept
        · simpa only [resume, waits, he, decide_eq_true place] using
            .resumed waits listening place
        · simpa only [resume, waits, he, decide_eq_false place] using
            .stillWaits waits listening (Nat.le_of_not_lt place)
      · -- a place that is kept is free, so a full queue keeps none
        have room := sound.room
        simpa only [resume, waits, he] using .stillWaits waits listening (by omega)

/-- Every step is one of the moves. -/
theorem makes_step (sound : x.Sound) (m : Move α) : x.Makes m (x.step m).1 (x.step m).2 := by
  cases m with
  | send a => exact makes_send a
  | resume i => exact makes_resume sound i
  | abandon i =>
      cases waits : x.waiting[i]? with
      | none =>
          have beyond : ¬ i < x.waiting.length := Nat.not_lt.2 (List.getElem?_eq_none_iff.1 waits)
          simpa only [step, abandon, waits] using .impossible beyond
      | some a => simpa only [step, abandon, waits] using .abandoned waits
  | receive wait =>
      by_cases free : x.queue.listening = true ∧ x.deadline = none
      · have asks : (x.queue.listening && x.deadline.isNone) = true := by simp [free.1, free.2]
        simpa only [step, receive, if_pos asks] using makes_poll (.receive wait free.1 free.2)
      · have senseless : ¬ (x.queue.listening && x.deadline.isNone) = true := by simpa using free
        simpa only [step, receive, if_neg senseless] using .impossible free
  | look =>
      cases waits : x.deadline with
      | none => simpa only [step, look, waits] using .impossible (by simp [Possible, waits])
      | some deadline => simpa only [step, look, waits] using makes_poll (.look waits)
  | addSender =>
      by_cases held : 0 < x.queue.senders
      · have shared : x.queue.senders ≠ 0 := by omega
        simpa only [step, addSender, if_neg shared] using .senderAdded held
      · simpa only [step, addSender, if_pos (Nat.eq_zero_of_not_pos held)] using .impossible held
  | dropSender =>
      by_cases idle : 0 < x.queue.senders ∧ (x.queue.senders = 1 → x.waiting = [])
      · have can : ¬ (x.queue.senders = 0 ∨ (x.queue.senders = 1 ∧ !x.waiting.isEmpty)) := by
          rintro (alone | ⟨last, waits⟩)
          · omega
          · simp [idle.2 last] at waits
        simpa only [step, dropSender, if_neg can] using .senderDropped idle.1 idle.2
      · have cannot : x.queue.senders = 0 ∨ (x.queue.senders = 1 ∧ !x.waiting.isEmpty) := by
          by_contra can
          simp only [not_or, not_and, Bool.not_eq_true', Bool.not_eq_false,
            List.isEmpty_iff] at can
          exact idle ⟨by omega, can.2⟩
        simpa only [step, dropSender, if_pos cannot] using .impossible idle
  | dropReceiver =>
      by_cases free : x.queue.listening = true ∧ x.deadline = none
      · have can : (x.queue.listening && x.deadline.isNone) = true := by simp [free.1, free.2]
        simpa only [step, dropReceiver, if_pos can] using .receiverDropped free.1 free.2
      · have cannot : ¬ (x.queue.listening && x.deadline.isNone) = true := by simpa using free
        simpa only [step, dropReceiver, if_neg cannot] using .impossible free
  | passTo tick => exact .passed tick

end Steps

section Soundness

theorem Sound.withdraw (sound : x.Sound) (i : Nat) : (x.withdraw i).Sound where
  room := Nat.le_trans (Nat.add_le_add_left (Nat.min_le_left ..) _) sound.room
  kept_le := Nat.min_le_right ..
  busy listening waits := by
    have fewer := x.waiting.length_eraseIdx_le i
    have busy := sound.busy listening
    simp only [Exchange.withdraw] at waits ⊢
    omega
  held waits := sound.held fun nobody => waits (by simp [Exchange.withdraw, nobody])
  listening := sound.listening
  drained := sound.drained
  called := sound.called
  timely := sound.timely

/-- The clock goes on and nothing else changes. -/
theorem passTo_eq (x : Exchange α) (tick : Nat) :
    x.passTo tick = { x with now := (x.passTo tick).now } := by
  obtain ⟨queue, waiting, kept, deadline, called, now⟩ := x
  cases deadline with
  | none => rfl
  | some deadline => cases called <;> rfl

theorem passTo_now_le {deadline : Nat} (waits : x.deadline = some deadline)
    (early : x.now ≤ deadline) (tick : Nat) : (x.passTo tick).now ≤ deadline := by
  simp only [Exchange.passTo, waits]
  split
  · exact early
  · simp only
    omega

/-- The clock stands still until a receive that has been called looks. -/
theorem passTo_of_called (waits : x.deadline.isSome) (called : x.called = true) (tick : Nat) :
    x.passTo tick = x := by
  obtain ⟨deadline, waits⟩ := Option.isSome_iff_exists.1 waits
  simp only [Exchange.passTo, waits, if_pos called]

theorem Sound.passTo (sound : x.Sound) (tick : Nat) : (x.passTo tick).Sound := by
  rw [passTo_eq]
  have timely (deadline : Nat) (waits : x.deadline = some deadline) :
      (x.passTo tick).now ≤ deadline :=
    passTo_now_le waits (sound.timely deadline waits) tick
  exact { sound with timely := timely }

/-- A move keeps an exchange sound. -/
theorem Sound.makes (sound : x.Sound) (makes : x.Makes m answer x') : x'.Sound := by
  have ⟨room, kept_le, busy, held, listening, drained, called, timely⟩ := sound
  cases makes with
  | impossible => exact sound
  | sent a _ hears free =>
      refine ⟨?_, kept_le, fun hears waits => ?_, held, listening, ?_, fun _ _ => rfl, timely⟩
      · simp only [List.length_append, List.length_singleton]
        omega
      · have full := busy hears waits
        omega
      · simp [hears]
  | parked a sender _ full =>
      refine ⟨room, ?_, fun _ _ => Nat.le_antisymm room full, fun _ => sender, listening, drained,
        called, timely⟩
      simp only [List.length_append, List.length_singleton]
      omega
  | turnedAway => exact sound
  | @resumed i a waits hears place =>
      obtain ⟨within, -⟩ := List.getElem?_eq_some_iff.1 waits
      have fewer := x.waiting.length_eraseIdx_of_lt within
      refine ⟨?_, ?_, fun _ others => ?_, fun others => held fun nobody => ?_, listening, ?_,
        fun _ _ => rfl, timely⟩
      · simp only [List.length_append, List.length_singleton]
        omega
      · simp only [fewer]
        omega
      · have full := busy hears
        simp only [List.length_append, List.length_singleton, fewer] at others ⊢
        omega
      · simp [nobody] at waits
      · simp [hears]
  | stillWaits => exact sound
  | @sentAway i => exact sound.withdraw i
  | @abandoned i => exact sound.withdraw i
  | @item _ _ a rest asks queued =>
      rw [queued, List.length_cons] at room
      refine ⟨?_, Nat.min_le_right .., fun hears waits => ?_, held, nofun, fun gone => ?_, nofun,
        nofun⟩
      · simp only
        omega
      · have full := busy hears
        rw [queued, List.length_cons] at full
        simp only at waits ⊢
        omega
      · simp [drained gone] at queued
  | closed => exact ⟨room, kept_le, busy, held, nofun, drained, nofun, nofun⟩
  | timedOut => exact ⟨room, kept_le, busy, held, nofun, drained, nofun, nofun⟩
  | @goesOn _ deadline asks empty shared early =>
      refine ⟨room, kept_le, busy, held, fun _ => ?_, drained, fun _ ready => ?_,
        fun deadline' h => ?_⟩
      · cases asks with
        | receive _ hears => exact hears
        | look waits => exact listening (by simp [waits])
      · rcases ready with ready | ready
        · exact absurd empty ready
        · simp only at ready
          omega
      · obtain rfl : deadline = deadline' := by simpa using h
        exact Nat.le_of_lt early
  | senderAdded =>
      refine ⟨room, kept_le, busy, fun _ => Nat.succ_pos _, listening, drained,
        fun waits ready => ?_, timely⟩
      exact called waits (ready.imp_right fun alone => absurd alone (Nat.succ_ne_zero _))
  | senderDropped shared idle =>
      refine ⟨room, kept_le, busy, fun waits => ?_, listening, drained, fun waits ready => ?_,
        timely⟩
      · have last : x.queue.senders ≠ 1 := fun one => waits (idle one)
        simp only [Queue.dropSender]
        omega
      · by_cases last : x.queue.senders = 1
        · simp [last]
        · have ready' : x.queue.items ≠ [] ∨ x.queue.senders = 0 := by
            refine ready.imp_right fun alone => ?_
            simp only [Queue.dropSender] at alone
            omega
          simp [called waits ready']
  | receiverDropped hears free =>
      have places : x.queue.hangUp.items.length + x.kept ≤ x.queue.capacity := by
        simp only [Queue.hangUp, List.length_nil]
        omega
      refine ⟨places, kept_le, nofun, held, fun waits => ?_, fun _ => rfl, fun waits _ => ?_,
        timely⟩
      · simp [free] at waits
      · simp [free] at waits
  | passed tick => exact sound.passTo tick

end Soundness

end DuplexStream.Exchange
