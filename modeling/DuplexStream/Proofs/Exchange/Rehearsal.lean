import DuplexStream.Handoff
import DuplexStream.Proofs.Exchange.InOrder

/-!
# A rehearsed hand-off is a run of moves

Each step of a `Handoff` makes moves of its exchange, and shows what they hand over. So items are
handed over in order in a rehearsal too.
-/

namespace DuplexStream

variable {α : Type}

namespace Exchange

variable {x x' x'' : Exchange α}

theorem run_append (x : Exchange α) (moves moves' : List (Move α)) :
    x.run (moves ++ moves') =
      ((x.run moves).1 ++ ((x.run moves).2.run moves').1, ((x.run moves).2.run moves').2) := by
  induction moves generalizing x with
  | nil => rfl
  | cons m moves ih => simp only [List.cons_append, run, ih]

/-- Some moves lead from one exchange to another; they complete sends of these items and receive
those. -/
def HandsOver (x : Exchange α) (completed received : List α) (x' : Exchange α) : Prop :=
  ∃ moves, (x.run moves).2 = x' ∧ (x.run moves).1.completed = completed ∧
    (x.run moves).1.received = received

namespace HandsOver

theorem refl (x : Exchange α) : HandsOver x [] [] x :=
  ⟨[], rfl, rfl, rfl⟩

theorem trans {completed completed' received received' : List α}
    (first : HandsOver x completed received x') (second : HandsOver x' completed' received' x'') :
    HandsOver x (completed ++ completed') (received ++ received') x'' := by
  obtain ⟨moves, rfl, rfl, rfl⟩ := first
  obtain ⟨moves', rfl, rfl, rfl⟩ := second
  refine ⟨moves ++ moves', ?_, ?_, ?_⟩ <;> rw [run_append]
  · exact Log.completed_append
  · exact Log.received_append

/-- One move hands over what its answer says. -/
theorem step (x : Exchange α) (m : Move α) :
    HandsOver x (x.step m).1.completed?.toList (x.step m).1.received?.toList (x.step m).2 := by
  refine ⟨[m], rfl, ?_, ?_⟩
  · simp only [run, Log.completed, List.filterMap_eq_flatMap_toList, List.flatMap_singleton]
  · simp only [run, Log.received, List.filterMap_eq_flatMap_toList, List.flatMap_singleton]

end HandsOver

/-- The move is one that hands over nothing. -/
def Move.quiet : Move α → Bool
  | .abandon _ | .addSender | .dropSender | .dropReceiver | .passTo _ => true
  | _ => false

theorem step_of_quiet {m : Move α} (quiet : m.quiet) (x : Exchange α) :
    (x.step m).1.completed? = none ∧ (x.step m).1.received? = none := by
  cases m with
  | abandon i =>
      simp only [Exchange.step, Exchange.abandon]
      split <;> exact ⟨rfl, rfl⟩
  | addSender =>
      simp only [Exchange.step, Exchange.addSender]
      split <;> exact ⟨rfl, rfl⟩
  | dropSender =>
      simp only [Exchange.step, Exchange.dropSender]
      split <;> exact ⟨rfl, rfl⟩
  | dropReceiver =>
      simp only [Exchange.step, Exchange.dropReceiver]
      split <;> exact ⟨rfl, rfl⟩
  | passTo => exact ⟨rfl, rfl⟩
  | _ => simp [Move.quiet] at quiet

theorem HandsOver.quiet {m : Move α} (quiet : m.quiet) (x : Exchange α) :
    HandsOver x [] [] (x.step m).2 := by
  obtain ⟨completed, received⟩ := step_of_quiet quiet x
  have one := step x m
  rwa [completed, received] at one

theorem HandsOver.run {moves : List (Move α)} (quiet : ∀ m ∈ moves, m.quiet) (x : Exchange α) :
    HandsOver x [] [] (x.run moves).2 := by
  induction moves generalizing x with
  | nil => exact refl x
  | cons m moves ih =>
      obtain ⟨first, others⟩ := List.forall_mem_cons.1 quiet
      exact (HandsOver.quiet first x).trans (ih others (x.step m).2)

/-- The receiver's look completes no send. -/
theorem completed?_poll (x : Exchange α) (deadline : Nat) :
    (x.poll deadline).1.completed? = none := by
  unfold poll
  split
  · rfl
  · rfl
  · split <;> rfl

theorem completed?_receive (x : Exchange α) (wait : Duration) :
    (x.receive wait).1.completed? = none := by
  unfold receive
  split
  · exact x.completed?_poll _
  · rfl

theorem completed?_look (x : Exchange α) : x.look.1.completed? = none := by
  unfold look
  split
  · exact x.completed?_poll _
  · rfl

end Exchange

/-- The item that a result says has been received. -/
def HandoffResult.received? : HandoffResult α → Option α
  | .item a => some a
  | _ => none

/-- The item of a step that is a send and has been completed. -/
def HandoffStep.completed? : HandoffStep α → HandoffResult α → Option α
  | .send a, .sent => some a
  | _, _ => none

namespace Handoff

open Exchange (HandsOver)

theorem handsOver_waitUntil (h : Handoff α) (tick : Nat) :
    HandsOver h.exchange [] [] (h.waitUntil tick).exchange := by
  refine HandsOver.run (fun m mem => ?_) h.exchange
  simp only [departures, List.mem_append, List.mem_flatMap, List.mem_cons, List.not_mem_nil,
    or_false] at mem
  obtain ⟨leave, -, rfl | rfl⟩ | rfl := mem <;> rfl

theorem received?_shown (answer : Exchange.Answer α) :
    (shown answer).received? = answer.received? := by
  cases answer <;> rfl

theorem handsOver_make (h : Handoff α) (m : Exchange.Move α) :
    HandsOver h.exchange (h.make m).1.completed?.toList (h.make m).1.received?.toList
      (h.make m).2.exchange :=
  HandsOver.step h.exchange m

theorem handsOver_send (h : Handoff α) (a : α) :
    HandsOver h.exchange ((HandoffStep.send a).completed? (h.send a).1).toList
      (h.send a).1.received?.toList (h.send a).2.exchange := by
  have first := h.handsOver_make (.send a)
  have makes : h.exchange.Makes (.send a) (h.make (.send a)).1 (h.make (.send a)).2.exchange :=
    Exchange.makes_send a
  unfold send
  generalize h.make (.send a) = made at first makes
  obtain ⟨answer, x', leaving⟩ := made
  split
  · exact .refl _
  · cases makes with
    | sent | turnedAway => exact first
    | item asks | closed asks | timedOut asks | goesOn asks => cases asks
    | parked | impossible =>
        exact first.trans ((handsOver_waitUntil ..).trans (HandsOver.quiet rfl _))

theorem handsOver_receive (h : Handoff α) (wait : Duration) :
    HandsOver h.exchange [] (h.receive wait).1.received?.toList (h.receive wait).2.exchange := by
  have first := h.handsOver_make (.receive wait)
  have nothing : (h.make (.receive wait)).1.completed? = none :=
    h.exchange.completed?_receive wait
  rw [nothing] at first
  unfold receive
  generalize h.make (.receive wait) = made at first
  obtain ⟨answer, h'⟩ := made
  split
  · exact .refl _
  · cases answer with
    | waits =>
        let waited := h'.waitUntil (h'.exchange.now + wait.ticks)
        have second := waited.handsOver_make .look
        have nothing : (waited.make .look).1.completed? = none := waited.exchange.completed?_look
        rw [nothing, ← received?_shown] at second
        exact first.trans ((h'.handsOver_waitUntil _).trans second)
    | _ => exact first

/-- Each step of a rehearsal hands over what its result says. -/
theorem handsOver_step (h : Handoff α) (s : HandoffStep α) :
    HandsOver h.exchange (s.completed? (h.step s).1).toList (h.step s).1.received?.toList
      (h.step s).2.exchange := by
  cases s with
  | send a => exact h.handsOver_send a
  | receive wait => exact h.handsOver_receive wait
  | addSender =>
      simp only [step]
      split
      · exact .refl _
      · exact HandsOver.quiet rfl _
  | dropSender =>
      simp only [step]
      split
      · exact .refl _
      · exact HandsOver.quiet rfl _
  | dropSenderIn d =>
      simp only [step]
      split <;> exact .refl _
  | dropReceiver => exact HandsOver.quiet rfl _

/-- The items of the sends that a rehearsal completes, in order. -/
def completed (steps : List (HandoffStep α)) (results : List (HandoffResult α × Nat)) : List α :=
  (steps.zip results).filterMap fun (s, result, _) => s.completed? result

/-- The items that a rehearsal receives, in order. -/
def received (results : List (HandoffResult α × Nat)) : List α :=
  results.filterMap (·.1.received?)

/-- A rehearsal is a run of moves. -/
theorem handsOver_steps (h : Handoff α) (steps : List (HandoffStep α)) :
    HandsOver h.exchange (completed steps (h.steps steps).1) (received (h.steps steps).1)
      (h.steps steps).2.exchange := by
  induction steps generalizing h with
  | nil => exact .refl _
  | cons s steps ih =>
      have both := (h.handsOver_step s).trans (ih (h.step s).2)
      simp only [completed, received, Handoff.steps, List.zip_cons_cons,
        List.filterMap_eq_flatMap_toList, List.flatMap_cons] at both ⊢
      exact both

/-- In a rehearsal too, as long as the receiver is there, what it has received and what is queued
are the items of the completed sends, in order. -/
theorem rehearsed_in_order {capacity : Nat} {steps : List (HandoffStep α)}
    (hears : ((ofCapacity capacity).steps steps).2.exchange.queue.listening = true) :
    received ((ofCapacity capacity).steps steps).1 ++
        ((ofCapacity capacity).steps steps).2.exchange.queue.items =
      completed steps ((ofCapacity capacity).steps steps).1 := by
  obtain ⟨moves, last, completed, received⟩ := (ofCapacity capacity).handsOver_steps steps
  have account := Exchange.account_run (Exchange.sound_ofCapacity capacity) moves
  rw [← last] at hears ⊢
  rw [← completed, ← received]
  exact (account.items hears).symm

end Handoff

end DuplexStream
