import DuplexStream.Proofs.Exchange.Moves
import Mathlib.Data.List.Perm.Basic

/-!
# Items are handed over in order

Whatever the ends of an exchange do, and in whatever order: as long as the receiver is there, what
it has received and what is queued are the items of the completed sends, in the order of their
completion. With the receiver goes what is queued at that moment, and nothing is handed over after
it. A send is completed, comes to nothing, or waits, each only once. The two ends learn of each
other's departure, and of nothing else by mistake.

An `Exchange.Account` says what a stretch of a run leaves behind; accounts of stretches that follow
one another add up, so a run needs only the account of one move.
-/

namespace DuplexStream.Exchange

variable {α : Type} {x x' x'' : Exchange α} {m : Move α} {answer : Answer α}

namespace Answer

/-- The item that a send has put into the queue. -/
def completed? : Answer α → Option α
  | .sent a => some a
  | _ => none

/-- The item of a send that has come to nothing. -/
def fruitless? : Answer α → Option α
  | .streamClosed a => some a
  | .abandoned a => some a
  | _ => none

/-- The item that the receiver has got. -/
def received? : Answer α → Option α
  | .item a => some a
  | _ => none

def isSenderAdded : Answer α → Bool
  | .senderAdded => true
  | _ => false

def isSenderDropped : Answer α → Bool
  | .senderDropped => true
  | _ => false

def isReceiverDropped : Answer α → Bool
  | .receiverDropped => true
  | _ => false

end Answer

/-- The item of a send that is made. -/
def begun? : Move α × Answer α → Option α
  | (.send _, .impossible) => none
  | (.send a, _) => some a
  | _ => none

namespace Log

variable (log : Log α)

/-- The items of the sends that were made. -/
def begun : List α := log.filterMap begun?

/-- The items of the sends that were completed, in the order of their completion. -/
def completed : List α := log.filterMap (·.2.completed?)

/-- The items of the sends that came to nothing. -/
def fruitless : List α := log.filterMap (·.2.fruitless?)

/-- The items that were received. -/
def received : List α := log.filterMap (·.2.received?)

/-- How many senders were added. -/
def added : Nat := log.countP (·.2.isSenderAdded)

/-- How many senders went. -/
def dropped : Nat := log.countP (·.2.isSenderDropped)

/-- The receiver went. -/
def receiverLeft : Bool := log.any (·.2.isReceiverDropped)

variable {log} {log' : Log α}

theorem begun_append : (log ++ log').begun = log.begun ++ log'.begun :=
  List.filterMap_append

theorem completed_append : (log ++ log').completed = log.completed ++ log'.completed :=
  List.filterMap_append

theorem fruitless_append : (log ++ log').fruitless = log.fruitless ++ log'.fruitless :=
  List.filterMap_append

theorem received_append : (log ++ log').received = log.received ++ log'.received :=
  List.filterMap_append

end Log

/-- What a stretch of a run leaves behind. -/
structure Account (x : Exchange α) (log : Log α) (x' : Exchange α) : Prop where
  sound : x'.Sound
  capacity : x'.queue.capacity = x.queue.capacity
  /-- What comes in at one end comes out at the other, in order, as long as someone is there. -/
  items : x'.queue.listening = true →
    x.queue.items ++ log.completed = log.received ++ x'.queue.items
  /-- Nothing else ever comes out. -/
  received : log.received <+: x.queue.items ++ log.completed
  /-- Once the receiver is gone nothing goes in and nothing comes out. -/
  silent : x.queue.listening = false → log.received = [] ∧ log.completed = []
  /-- Each send is completed, comes to nothing, or goes on waiting. -/
  sends : (x.waiting ++ log.begun).Perm (log.completed ++ log.fruitless ++ x'.waiting)
  senders : x'.queue.senders + log.dropped = x.queue.senders + log.added
  listening : x'.queue.listening = (x.queue.listening && !log.receiverLeft)

namespace Account

open scoped List

theorem refl (sound : x.Sound) : Account x [] x where
  sound := sound
  capacity := rfl
  items _ := List.append_nil _
  received := List.nil_prefix
  silent _ := ⟨rfl, rfl⟩
  sends := by simp [Log.begun, Log.completed, Log.fruitless]
  senders := rfl
  listening := by simp [Log.receiverLeft]

/-- Who is there at the end has been there all the time. -/
theorem listening_of_last {log : Log α} (account : Account x log x')
    (hears : x'.queue.listening = true) : x.queue.listening = true := by
  rw [account.listening] at hears
  exact (Bool.and_eq_true_iff.1 hears).1

theorem trans {log log' : Log α} (first : Account x log x') (second : Account x' log' x'') :
    Account x (log ++ log') x'' where
  sound := second.sound
  capacity := second.capacity.trans first.capacity
  items hears := by
    rw [Log.completed_append, Log.received_append, ← List.append_assoc,
      first.items (second.listening_of_last hears), List.append_assoc, second.items hears,
      List.append_assoc]
  received := by
    rw [Log.completed_append, Log.received_append, ← List.append_assoc]
    cases hears : x'.queue.listening with
    | true =>
        rw [first.items hears, List.append_assoc]
        exact (List.prefix_append_right_inj _).2 second.received
    | false =>
        obtain ⟨nothing, none⟩ := second.silent hears
        rw [nothing, none, List.append_nil, List.append_nil]
        exact first.received
  silent gone := by
    have gone' : x'.queue.listening = false := by rw [first.listening, gone, Bool.false_and]
    obtain ⟨nothing, completed⟩ := first.silent gone
    obtain ⟨nothing', completed'⟩ := second.silent gone'
    rw [Log.received_append, Log.completed_append, nothing, nothing', completed, completed']
    exact ⟨rfl, rfl⟩
  sends := by
    rw [Log.begun_append, Log.completed_append, Log.fruitless_append]
    calc x.waiting ++ (log.begun ++ log'.begun)
      _ = (x.waiting ++ log.begun) ++ log'.begun := (List.append_assoc ..).symm
      _ ~ (log.completed ++ log.fruitless ++ x'.waiting) ++ log'.begun :=
        first.sends.append_right _
      _ = log.completed ++ (log.fruitless ++ (x'.waiting ++ log'.begun)) := by
        simp only [List.append_assoc]
      _ ~ log.completed ++ (log.fruitless ++ (log'.completed ++ log'.fruitless ++ x''.waiting)) :=
        (second.sends.append_left _).append_left _
      _ = log.completed ++
          (log.fruitless ++ (log'.completed ++ (log'.fruitless ++ x''.waiting))) := by
        simp only [List.append_assoc]
      _ ~ log.completed ++ (log'.completed ++ (log.fruitless ++ (log'.fruitless ++ x''.waiting))) :=
        List.perm_append_comm_assoc .. |>.append_left _
      _ = log.completed ++ log'.completed ++ (log.fruitless ++ log'.fruitless) ++ x''.waiting := by
        simp only [List.append_assoc]
  senders := by
    have one := first.senders
    have two := second.senders
    simp only [Log.dropped, Log.added, List.countP_append] at *
    omega
  listening := by
    rw [second.listening, first.listening, Log.receiverLeft, Log.receiverLeft, Log.receiverLeft,
      List.any_append, Bool.not_or, Bool.and_assoc]

end Account

section Moves

open scoped List

theorem Makes.capacity (makes : x.Makes m answer x') : x'.queue.capacity = x.queue.capacity := by
  cases makes with
  | passed tick => rw [passTo_eq]
  | _ => rfl

theorem Makes.items (makes : x.Makes m answer x') (hears : x'.queue.listening = true) :
    x.queue.items ++ Log.completed [(m, answer)] =
      Log.received [(m, answer)] ++ x'.queue.items := by
  cases makes with
  | sent | resumed => rfl
  | receiverDropped => cases hears
  | item _ queued => exact (List.append_nil _).trans queued
  | passed tick =>
      rw [passTo_eq]
      exact List.append_nil _
  | _ => exact List.append_nil _

theorem Makes.received (makes : x.Makes m answer x') :
    Log.received [(m, answer)] <+: x.queue.items ++ Log.completed [(m, answer)] := by
  cases makes with
  | item _ queued =>
      rw [queued]
      exact List.prefix_append [_] _
  | _ => exact List.nil_prefix

/-- Nobody being there to receive, a move hands over nothing. -/
theorem Makes.silent (sound : x.Sound) (makes : x.Makes m answer x')
    (gone : x.queue.listening = false) : answer.received? = none ∧ answer.completed? = none := by
  cases makes with
  | sent _ _ hears | resumed _ hears => simp [gone] at hears
  | item _ queued => simp [sound.drained gone] at queued
  | _ => exact ⟨rfl, rfl⟩

/-- An item that leaves those that wait is one of them. -/
theorem perm_eraseIdx {i : Nat} {a : α} (waits : x.waiting[i]? = some a) :
    x.waiting ~ a :: x.waiting.eraseIdx i := by
  obtain ⟨within, rfl⟩ := List.getElem?_eq_some_iff.1 waits
  exact (List.getElem_cons_eraseIdx_perm within).symm

theorem Makes.sends (makes : x.Makes m answer x') :
    x.waiting ++ Log.begun [(m, answer)] ~
      Log.completed [(m, answer)] ++ Log.fruitless [(m, answer)] ++ x'.waiting := by
  have same : x.waiting ++ [] ~ x.waiting := .of_eq (List.append_nil _)
  cases makes with
  | sent | turnedAway => exact List.perm_append_comm
  | parked => exact .refl _
  | resumed waits | sentAway waits | abandoned waits => exact same.trans (perm_eraseIdx waits)
  | item asks | closed asks | timedOut asks | goesOn asks => cases asks <;> exact same
  | @impossible m => cases m <;> exact same
  | passed tick =>
      rw [passTo_eq]
      exact same
  | _ => exact same

theorem Makes.senders (makes : x.Makes m answer x') :
    x'.queue.senders + Log.dropped [(m, answer)] = x.queue.senders + Log.added [(m, answer)] := by
  cases makes with
  | senderAdded => rfl
  | senderDropped held => exact Nat.sub_add_cancel held
  | passed tick =>
      rw [passTo_eq]
      rfl
  | _ => rfl

theorem Makes.listening (makes : x.Makes m answer x') :
    x'.queue.listening = (x.queue.listening && !Log.receiverLeft [(m, answer)]) := by
  cases makes with
  | receiverDropped => exact (Bool.and_false _).symm
  | passed tick =>
      rw [passTo_eq]
      exact (Bool.and_true _).symm
  | _ => exact (Bool.and_true _).symm

/-- The account of one move. -/
theorem Makes.account (sound : x.Sound) (makes : x.Makes m answer x') :
    Account x [(m, answer)] x' :=
  { sound := sound.makes makes
    capacity := makes.capacity
    items := makes.items
    received := makes.received
    silent := fun gone => by
      obtain ⟨nothing, completed⟩ := makes.silent sound gone
      exact ⟨List.filterMap_cons_none nothing, List.filterMap_cons_none completed⟩
    sends := makes.sends
    senders := makes.senders
    listening := makes.listening }

/-- The account of a run. -/
theorem account_run (sound : x.Sound) (moves : List (Move α)) :
    Account x (x.run moves).1 (x.run moves).2 := by
  induction moves generalizing x with
  | nil => exact .refl sound
  | cons m moves ih =>
      have first := (makes_step sound m).account sound
      exact first.trans (ih first.sound)

end Moves

section Answers

theorem Asks.possible {deadline : Nat} (asks : x.Asks m deadline) : x.Possible m := by
  cases asks with
  | receive _ listening free => exact ⟨listening, free⟩
  | look waits => simp [Possible, waits]

theorem Offers.possible {a : α} (offers : x.Offers m a) : x.Possible m := by
  cases offers with
  | send _ held => exact held
  | resume waits => exact (List.getElem?_eq_some_iff.1 waits).1

/-- A send that comes to nothing leaves the queue as it is. -/
theorem Makes.queue_of_fruitless (makes : x.Makes m answer x')
    (fruitless : answer.fruitless?.isSome) : x'.queue = x.queue := by
  cases makes with
  | turnedAway | sentAway | abandoned => rfl
  | _ => exact absurd fruitless nofun

/-- A receive is given up at its deadline, with nothing queued, and leaves everything as it is. -/
theorem Makes.of_timedOut (sound : x.Sound) (makes : x.Makes m .timedOut x') :
    x.Asks m x.now ∧ x.queue.items = [] ∧ x' = { x with deadline := none } := by
  cases makes with
  | @timedOut _ deadline asks empty _ due =>
      have early : x.now ≤ deadline := by
        cases asks with
        | receive => exact Nat.le_add_right ..
        | look waits => exact sound.timely deadline waits
      obtain rfl := Nat.le_antisymm due early
      exact ⟨asks, empty, rfl⟩

/-- The receiver learns of its end exactly when there is nothing more to come. -/
theorem Makes.closed_iff (makes : x.Makes m answer x') {deadline : Nat}
    (asks : x.Asks m deadline) :
    answer = .closed ↔ x.queue.senders = 0 ∧ x.queue.items = [] := by
  constructor
  · rintro rfl
    cases makes with
    | closed _ empty alone => exact ⟨alone, empty⟩
  · rintro ⟨alone, empty⟩
    cases makes with
    | closed => rfl
    | impossible senseless => exact absurd asks.possible senseless
    | item _ queued => simp [empty] at queued
    | timedOut _ _ held | goesOn _ _ held => omega
    | _ => cases asks

theorem Makes.asks_of_closed (makes : x.Makes m .closed x') :
    (∃ deadline, x.Asks m deadline) ∧ x'.now = x.now := by
  cases makes with
  | closed asks => exact ⟨⟨_, asks⟩, rfl⟩

/-- A sender learns that the receiver is gone exactly when it is. -/
theorem Makes.streamClosed_iff (makes : x.Makes m answer x') (a : α) :
    answer = .streamClosed a ↔ x.Offers m a ∧ x.queue.listening = false := by
  constructor
  · rintro rfl
    cases makes with
    | turnedAway _ held gone => exact ⟨.send a held, gone⟩
    | sentAway waits gone => exact ⟨.resume waits, gone⟩
  · rintro ⟨offers, gone⟩
    cases makes with
    | turnedAway => cases offers; rfl
    | sentAway waits =>
        cases offers with
        | resume waits' => rw [Option.some.inj (waits.symm.trans waits')]
    | impossible senseless => exact absurd offers.possible senseless
    | sent _ _ listening | parked _ _ listening => simp [gone] at listening
    | resumed _ listening | stillWaits _ listening => simp [gone] at listening
    | item asks | closed asks | timedOut asks | goesOn asks => cases asks <;> cases offers
    | _ => cases offers

/-- While a receive waits for what will never come, nothing happens before it looks again. -/
theorem Makes.look_or_eq (sound : x.Sound) (makes : x.Makes m answer x')
    (waits : x.deadline.isSome) (alone : x.queue.senders = 0) : m = .look ∨ x' = x := by
  have nobody : x.waiting = [] := by
    by_contra others
    exact absurd (sound.held others) (by omega)
  have busy : x.deadline ≠ none := Option.isSome_iff_ne_none.1 waits
  cases makes with
  | impossible | turnedAway | stillWaits => exact .inr rfl
  | sent _ held | parked _ held => omega
  | senderAdded held | senderDropped held => omega
  | resumed place | sentAway place | abandoned place => simp [nobody] at place
  | item asks | closed asks | timedOut asks | goesOn asks =>
      cases asks with
      | receive _ _ free => exact absurd free busy
      | look => exact .inl rfl
  | receiverDropped _ free => exact absurd free busy
  | passed tick => exact .inr (passTo_of_called waits (sound.called waits (.inr alone)) tick)

end Answers

/-- **Items are handed over in order.** After any moves on a fresh queue of any capacity, as long as
the receiver is there, what it has received and what is queued are the items of the completed sends
in order. What is queued when it goes is dropped: from then on nothing is queued, no send is
completed and nothing is received, and what it has received is a beginning of the completed sends.
The queue never holds more than it may; every send that was made is completed, or came to nothing,
or waits. The next move takes nothing out of the queue and puts nothing in if it is a send that
comes to nothing or a receive that is given up, which it is at its deadline only. A receive is
answered that the queue is closed only when no sender is left and nothing is queued, and then
nothing comes before this answer, not even a tick of the clock. A send, be it a new one or one that
waits, is answered that the stream is closed exactly when the receiver has gone. -/
theorem handed_over_in_order {capacity : Nat} {moves : List (Move α)} {log : Log α}
    {x : Exchange α} (ran : (ofCapacity capacity).run moves = (log, x)) :
    (x.queue.listening = true → log.received ++ x.queue.items = log.completed) ∧
    (x.queue.listening = false → x.queue.items = [] ∧ log.received <+: log.completed) ∧
    x.queue.items.length ≤ capacity ∧
    log.begun.Perm (log.completed ++ log.fruitless ++ x.waiting) ∧
    x.queue.senders + log.dropped = 1 + log.added ∧
    x.queue.listening = !log.receiverLeft ∧
    ∀ {m : Move α} {answer : Answer α} {x' : Exchange α}, x.step m = (answer, x') →
      (answer.fruitless?.isSome → x'.queue = x.queue) ∧
      (answer = .timedOut →
        x.Asks m x.now ∧ x.queue.items = [] ∧ x' = { x with deadline := none }) ∧
      (answer = .closed →
        (∃ deadline, x.Asks m deadline) ∧ x.queue.senders = 0 ∧ x.queue.items = [] ∧
          x'.now = x.now) ∧
      (x.queue.senders = 0 → x.queue.items = [] →
        (∀ deadline, x.Asks m deadline → answer = .closed) ∧
        (x.deadline.isSome → m = .look ∨ x' = x)) ∧
      (x.queue.listening = false → answer.received? = none ∧ answer.completed? = none) ∧
      ∀ a, answer = .streamClosed a ↔ x.Offers m a ∧ x.queue.listening = false := by
  have account : Account (ofCapacity capacity) log x := by
    simpa only [ran] using account_run (sound_ofCapacity capacity) moves
  have room : x.queue.items.length ≤ capacity := by
    have kept := account.sound.room
    have same : x.queue.capacity = capacity := account.capacity
    omega
  refine ⟨fun hears => (account.items hears).symm,
    fun gone => ⟨account.sound.drained gone, account.received⟩, room, account.sends,
    account.senders, account.listening, ?_⟩
  intro m answer x' stepped
  have makes : x.Makes m answer x' := by
    simpa only [stepped] using makes_step account.sound m
  refine ⟨makes.queue_of_fruitless, ?_, ?_, fun alone empty => ⟨?_, ?_⟩,
    makes.silent account.sound, makes.streamClosed_iff⟩
  · rintro rfl
    exact makes.of_timedOut account.sound
  · rintro rfl
    obtain ⟨⟨deadline, asks⟩, still⟩ := makes.asks_of_closed
    obtain ⟨alone, empty⟩ := (makes.closed_iff asks).1 rfl
    exact ⟨⟨deadline, asks⟩, alone, empty, still⟩
  · exact fun deadline asks => (makes.closed_iff asks).2 ⟨alone, empty⟩
  · exact fun waits => makes.look_or_eq account.sound waits alone

/-- Four sends on a queue for one item. The second is given up with a place kept for it, which the
third gets. The receiver has both items, waits in vain, and goes; the fourth send, for which a place
was kept by then, finds it gone. -/
theorem handed_over_in_order_passed_on :
    let moves : List (Move Nat) :=
      [.send 1, .send 2, .send 3, .receive (.ofMillis 5), .abandon 0, .resume 0, .send 4,
        .receive (.ofMillis 5), .receive (.ofMillis 5), .passTo 9, .look, .dropReceiver, .resume 0]
    ∃ (log : Log Nat) (x : Exchange Nat), (ofCapacity 1).run moves = (log, x) ∧
      x.queue.listening = false ∧ log.received <+: log.completed ∧ log.completed = [1, 3] ∧
      log.begun.Perm (log.completed ++ log.fruitless ++ x.waiting) ∧ log.fruitless = [2, 4] := by
  intro moves
  have ran : (ofCapacity 1).run moves =
      (((ofCapacity 1).run moves).1, ((ofCapacity 1).run moves).2) :=
    rfl
  have ⟨_, gone, _, sends, _⟩ := handed_over_in_order ran
  have left : ((ofCapacity 1).run moves).2.queue.listening = false := by decide
  exact ⟨_, _, ran, left, (gone left).2, by decide, sends, by decide⟩

/-- An item that is still queued when the receiver goes is received by nobody and queued no more, so
what has been received and what is queued then fall short of the completed sends. -/
theorem item_lost_with_receiver :
    ∃ (log : Log Nat) (x : Exchange Nat),
      (ofCapacity 1).run [.send 1, .dropReceiver] = (log, x) ∧
      log.completed = [1] ∧ x.queue.items = [] ∧ log.received ++ x.queue.items ≠ log.completed :=
  ⟨_, _, rfl, by decide, by decide, by decide⟩

end DuplexStream.Exchange
