import DuplexStream.Proofs.Session.Acknowledgements

/-!
# What the write loop leaves unwritten

A `Traffic` is a write loop on its own, among others that use its queues in any way and in any
order: acknowledgements are offered while the queue has a sender, senders come and go, the loop is
told that the session is done, the far side reads or hangs up, and time goes by. The
acknowledgements that have been written are always the first ones of those that have been offered,
as many as the loop has counted, and the far side finds them as long as it is there. What is left
when the loop has ended is explained by the state in which it ended (`Traffic.Excuse`), and without
such a state nothing is left (`Traffic.flushes`).
-/

namespace DuplexStream

open Relation (ReflTransGen)

/-- A write loop at work: the clock, what has been read out of the outbound queue, and what has been
offered to the loop's own queue from the start. An offer that comes after the end of the loop is
refused; it counts as offered. -/
structure Traffic where
  writer : WriteLoop
  now : Nat
  taken : List UInt64
  offered : List UInt64

namespace Traffic

/-- A write loop at its start, with whatever is in its queues already. -/
def begun (attempt poll : Nat) (queue outbound : Queue UInt64) (done : Bool) (now : Nat) :
    Traffic :=
  { writer :=
      { attempt := attempt
        poll := poll
        queue := { queue with listening := true }
        outbound := outbound
        done := done
        phase := .polling (now + poll)
        sent := 0
        written := [] }
    now := now
    taken := []
    offered := queue.items }

/-- The write loop of a session is one that starts so. -/
example (attempt : Nat) (poll : Duration) (capacity : Nat) (outbound : Queue UInt64) (now : Nat) :
    (begun attempt (max 1 poll.ticks) (.ofCapacity capacity) outbound false now).writer =
      .start attempt poll capacity outbound now := rfl

/-- The traffic with another state of the loop's queue. -/
def withQueue (t : Traffic) (q : Queue UInt64) : Traffic :=
  { t with writer := { t.writer with queue := q } }

/-- The traffic with another state of the outbound queue. -/
def withOutbound (t : Traffic) (q : Queue UInt64) : Traffic :=
  { t with writer := { t.writer with outbound := q } }

/-- One move of the loop. -/
inductive Works (t : Traffic) : Traffic → Prop
  | work {w : WriteLoop} {events : List Event}
      (step : t.writer.step t.now = some (w, events)) : Works t { t with writer := w }

/-- One move, of the loop or of the others. Whoever offers an acknowledgement or makes one more
sender holds a sender. -/
inductive Move (t : Traffic) : Traffic → Prop
  | work {t' : Traffic} (works : Works t t') : Move t t'
  | offer {a : UInt64} {q : Queue UInt64} (held : t.writer.queue.senders ≠ 0)
      (sent : t.writer.queue.send a = .sent q) :
      Move t { t.withQueue q with offered := t.offered ++ [a] }
  | refuse {a : UInt64} (held : t.writer.queue.senders ≠ 0)
      (closed : t.writer.queue.send a = .closed) : Move t { t with offered := t.offered ++ [a] }
  | addSender (held : t.writer.queue.senders ≠ 0) : Move t (t.withQueue t.writer.queue.addSender)
  | dropSender : Move t (t.withQueue t.writer.queue.dropSender)
  | finish : Move t { t with writer := { t.writer with done := true } }
  | read (n : Nat) :
      Move t { t.withOutbound
        { t.writer.outbound with items := t.writer.outbound.items.drop n } with
        taken := t.taken ++ t.writer.outbound.items.take n }
  | hangUp : Move t (t.withOutbound t.writer.outbound.hangUp)
  | pass (ticks : Nat) : Move t { t with now := t.now + ticks }

/-- The loop has not ended. -/
def Live (t : Traffic) : Prop :=
  t.writer.phase ≠ .ended

/-- The written acknowledgements are the first of the offered ones, as many as the loop has counted,
and while the loop goes on it holds the others. -/
structure Ordered (earlier : List UInt64) (t : Traffic) : Prop where
  enough : t.writer.sent ≤ t.offered.length
  written : t.writer.written = t.offered.take t.writer.sent
  passed : t.writer.Passed earlier t.taken
  held : t.Live → t.offered.drop t.writer.sent = t.writer.held
  listening : t.Live → t.writer.queue.listening = true

section Order

variable {earlier : List UInt64} {t t' : Traffic}

theorem ordered_begun (attempt poll : Nat) (queue outbound : Queue UInt64) (done : Bool)
    (now : Nat) :
    Ordered outbound.items (begun attempt poll queue outbound done now) where
  enough := Nat.zero_le _
  written := rfl
  passed := ⟨by simp [begun], by simp [begun]⟩
  held := fun _ => rfl
  listening := fun _ => rfl

/-- Only some parts of the traffic matter. -/
theorem Ordered.congr (h : Ordered earlier t) (offered : t'.offered = t.offered)
    (sent : t'.writer.sent = t.writer.sent) (written : t'.writer.written = t.writer.written)
    (passed : t'.writer.Passed earlier t'.taken)
    (held : t'.Live → t.Live ∧ t'.writer.held = t.writer.held ∧
      t'.writer.queue.listening = t.writer.queue.listening) : Ordered earlier t' where
  enough := by rw [offered, sent]; exact h.enough
  written := by rw [written, offered, sent]; exact h.written
  passed := passed
  held := fun live => by
    obtain ⟨before, same, _⟩ := held live
    rw [offered, sent, same, h.held before]
  listening := fun live => by
    obtain ⟨before, _, same⟩ := held live
    rw [same, h.listening before]

/-- An offer changes nothing in what has been written. -/
theorem Ordered.offered (h : Ordered earlier t) {a : UInt64}
    (held : t.Live → t'.writer.held = t.writer.held ++ [a]) (phase : t'.Live → t.Live)
    (offered : t'.offered = t.offered ++ [a]) (sent : t'.writer.sent = t.writer.sent)
    (written : t'.writer.written = t.writer.written) (passed : t'.writer.Passed earlier t'.taken)
    (listening : t'.writer.queue.listening = t.writer.queue.listening) : Ordered earlier t' where
  enough := by
    rw [offered, sent, List.length_append]
    exact Nat.le_trans h.enough (Nat.le_add_right _ _)
  written := by rw [written, offered, sent, List.take_append_of_le_length h.enough, h.written]
  passed := passed
  held := fun live => by
    rw [offered, sent, List.drop_append_of_le_length h.enough, h.held (phase live),
      held (phase live)]
  listening := fun live => by rw [listening, h.listening (phase live)]

/-- Writing the first of the acknowledgements that the loop holds. -/
theorem take_drop_succ {l rest : List UInt64} {n : Nat} {a : UInt64} (next : l.drop n = a :: rest) :
    n < l.length ∧ l.take (n + 1) = l.take n ++ [a] ∧ l.drop (n + 1) = rest := by
  have found : l[n]? = some a := by
    rw [← Nat.add_zero n, ← List.getElem?_drop, next]
    rfl
  obtain ⟨inside, _⟩ := List.getElem?_eq_some_iff.mp found
  refine ⟨inside, ?_, ?_⟩
  · rw [List.take_add_one, found]
    rfl
  · rw [← List.drop_drop, next]
    rfl

/-- One move of the loop keeps the order. -/
theorem Ordered.works (h : Ordered earlier t) (works : Works t t') : Ordered earlier t' := by
  obtain ⟨step⟩ := works
  have move := WriteLoop.step_of_eq_some step
  have live : t.Live := move.live
  have passed := h.passed.step move
  cases move with
  | took polling queued =>
      exact h.congr rfl rfl rfl passed fun _ =>
        ⟨live, by simp [WriteLoop.held, polling, queued], rfl⟩
  | repolled polling =>
      exact h.congr rfl rfl rfl passed fun _ =>
        ⟨live, by simp [WriteLoop.held, WriteLoop.repoll, polling], rfl⟩
  | @sent a sending listening room =>
      have next : t.offered.drop t.writer.sent = a :: t.writer.queue.items := by
        rw [h.held live, WriteLoop.held, sending]
      obtain ⟨inside, taken, left⟩ := take_drop_succ next
      refine ⟨inside, ?_, passed, fun _ => left, fun _ => h.listening live⟩
      calc t.writer.written ++ [a]
          = t.offered.take t.writer.sent ++ [a] := by rw [h.written]
        _ = t.offered.take (t.writer.sent + 1) := taken.symm
  | drained | gaveUp | refused | abandoned =>
      exact h.congr rfl rfl rfl passed fun live' => absurd rfl live'

theorem Ordered.move (h : Ordered earlier t) (move : Move t t') : Ordered earlier t' := by
  cases move with
  | work works => exact h.works works
  | @offer a q held sent =>
      rcases t.writer.queue.send_cases a with ⟨_, he⟩ | ⟨_, _, he⟩ | ⟨_, _, he⟩
      · rw [he] at sent
        cases sent
      · rw [he] at sent
        cases sent
        exact h.offered (WriteLoop.held_queue_append _ _) id rfl rfl rfl
          (h.passed.congr rfl rfl rfl) rfl
      · rw [he] at sent
        cases sent
  | @refuse a held closed =>
      -- only a loop that has ended refuses
      have finished : ¬ t.Live := by
        intro live
        rcases t.writer.queue.send_cases a with ⟨deaf, _⟩ | ⟨_, _, he⟩ | ⟨_, _, he⟩
        · rw [h.listening live] at deaf
          cases deaf
        · rw [he] at closed
          cases closed
        · rw [he] at closed
          cases closed
      exact h.offered (fun live => absurd live finished) id rfl rfl rfl h.passed rfl
  | read n => exact h.congr rfl rfl rfl (h.passed.take n) fun live => ⟨live, rfl, rfl⟩
  | hangUp => exact h.congr rfl rfl rfl h.passed.hangUp fun live => ⟨live, rfl, rfl⟩
  | addSender | dropSender | finish | pass =>
      exact h.congr rfl rfl rfl (h.passed.congr rfl rfl rfl) fun live => ⟨live, rfl, rfl⟩

theorem Ordered.reaches (h : Ordered earlier t) (reached : ReflTransGen Move t t') :
    Ordered earlier t' := by
  induction reached with
  | refl => exact h
  | tail _ move ih => exact ih.move move

end Order

/-- Why a loop that ends in this state leaves the acknowledgement at place `i` unwritten. -/
inductive Excuse (t : Traffic) (i : Nat) : Prop
  | closed {a : UInt64} (sending : t.writer.phase = .sending a)
      (gone : t.writer.outbound.listening = false)
  | full {a : UInt64} (sending : t.writer.phase = .sending a)
      (full : t.writer.outbound.capacity ≤ t.writer.outbound.items.length)
      (done : t.writer.done = true)
  | late {deadline : Nat} (polling : t.writer.phase = .polling deadline)
      (empty : t.writer.queue.items = []) (held : t.writer.queue.senders ≠ 0)
      (due : deadline ≤ t.now) (done : t.writer.done = true) (later : t.offered.length ≤ i)

section Ending

variable {earlier : List UInt64} {t t' t'' : Traffic}

/-- Without senders nothing is offered any more. -/
theorem Move.offered_of_drained (move : Move t t') (drained : t.writer.queue.senders = 0) :
    t'.offered = t.offered ∧ t'.writer.queue.senders = 0 := by
  cases move with
  | work works =>
      obtain ⟨step⟩ := works
      cases WriteLoop.step_of_eq_some step <;> exact ⟨rfl, drained⟩
  | offer held => exact absurd drained held
  | refuse held => exact absurd drained held
  | addSender held => exact absurd drained held
  | dropSender =>
      refine ⟨rfl, ?_⟩
      change t.writer.queue.senders - 1 = 0
      rw [drained]
  | finish | read | hangUp | pass => exact ⟨rfl, drained⟩

theorem offered_of_drained (reached : ReflTransGen Move t t')
    (drained : t.writer.queue.senders = 0) :
    t'.offered = t.offered ∧ t'.writer.queue.senders = 0 := by
  induction reached with
  | refl => exact ⟨rfl, drained⟩
  | tail _ move ih =>
      obtain ⟨same, still⟩ := move.offered_of_drained ih.2
      exact ⟨same.trans ih.1, still⟩

/-- A loop that has ended stays so and counts no further. -/
theorem Move.of_ended (move : Move t t') (ended : t.writer.phase = .ended) :
    t'.writer.phase = .ended ∧ t'.writer.sent = t.writer.sent := by
  cases move with
  | work works =>
      obtain ⟨step⟩ := works
      exact absurd ended (WriteLoop.step_of_eq_some step).live
  | offer | refuse | addSender | dropSender | finish | read | hangUp | pass => exact ⟨ended, rfl⟩

theorem sent_of_ended (reached : ReflTransGen Move t t') (ended : t.writer.phase = .ended) :
    t'.writer.phase = .ended ∧ t'.writer.sent = t.writer.sent := by
  induction reached with
  | refl => exact ⟨ended, rfl⟩
  | tail _ move ih =>
      obtain ⟨still, same⟩ := move.of_ended ih.1
      exact ⟨still, same.trans ih.2⟩

/-- Only the loop itself ends the loop. -/
theorem Move.works_of_ended (move : Move t t') (live : t.Live) (ended : t'.writer.phase = .ended) :
    Works t t' := by
  cases move with
  | work works => exact works
  | offer | refuse | addSender | dropSender | finish | read | hangUp | pass =>
      exact absurd ended live

/-- On the way to an end lies the move with which the loop ended. -/
theorem exists_last_work (reached : ReflTransGen Move t t'') (live : t.Live)
    (ended : t''.writer.phase = .ended) :
    ∃ t₀ t₁, ReflTransGen Move t t₀ ∧ t₀.Live ∧ Works t₀ t₁ ∧ t₁.writer.phase = .ended ∧
      ReflTransGen Move t₁ t'' := by
  induction reached with
  | refl => exact absurd ended live
  | @tail b c before move ih =>
      by_cases finished : b.writer.phase = .ended
      · obtain ⟨t₀, t₁, first, alive, works, last, rest⟩ := ih finished
        exact ⟨t₀, t₁, first, alive, works, last, rest.tail move⟩
      · exact ⟨b, c, before, finished, move.works_of_ended finished ended, ended, .refl⟩

/-- In the state in which the loop ends stands the reason why something is left, unless the senders
are gone and nothing is. -/
theorem Works.excuse (works : Works t t') (h : Ordered earlier t)
    (ended : t'.writer.phase = .ended) :
    (t.writer.queue.senders = 0 ∧ t.offered.length ≤ t.writer.sent) ∨
      ∀ i, t.writer.sent ≤ i → Excuse t i := by
  obtain ⟨step⟩ := works
  have move := WriteLoop.step_of_eq_some step
  have live : t.Live := move.live
  have through {deadline : Nat} (polling : t.writer.phase = .polling deadline)
      (empty : t.writer.queue.items = []) : t.offered.length ≤ t.writer.sent := by
    rw [← List.drop_eq_nil_iff, h.held live, WriteLoop.held, polling, empty]
  cases move with
  | drained polling empty closed => exact Or.inl ⟨closed, through polling empty⟩
  | gaveUp polling empty held due done =>
      exact Or.inr fun i left =>
        .late polling empty held due done (Nat.le_trans (through polling empty) left)
  | refused sending gone => exact Or.inr fun i _ => .closed sending gone
  | abandoned sending _ full done => exact Or.inr fun i _ => .full sending full done
  | took => cases ended
  | repolled => cases ended
  | sent => cases ended

/-- The count of a loop that ends is not changed by its end. -/
theorem Works.sent_of_ended (works : Works t t') (ended : t'.writer.phase = .ended) :
    t'.writer.sent = t.writer.sent ∧ t'.offered = t.offered ∧
      t'.writer.queue.senders = t.writer.queue.senders := by
  obtain ⟨step⟩ := works
  cases WriteLoop.step_of_eq_some step with
  | drained | gaveUp | refused | abandoned => exact ⟨rfl, rfl, rfl⟩
  | took => cases ended
  | repolled => cases ended
  | sent => cases ended

/-- What a loop that has ended left unwritten has its reason in the state in which the loop
ended. -/
theorem Ordered.exists_excuse (h : Ordered earlier t) (live : t.Live)
    (reached : ReflTransGen Move t t'') (ended : t''.writer.phase = .ended) {i : Nat}
    (left : t''.writer.sent ≤ i) (offered : i < t''.offered.length) :
    ∃ t₀, ReflTransGen Move t t₀ ∧ ReflTransGen Move t₀ t'' ∧ Excuse t₀ i := by
  obtain ⟨t₀, t₁, before, _, works, last, after⟩ := exists_last_work reached live ended
  obtain ⟨sent, same, senders⟩ := works.sent_of_ended last
  have count : t''.writer.sent = t₀.writer.sent := (Traffic.sent_of_ended after last).2.trans sent
  rcases (works.excuse (h.reaches before) last) with ⟨drained, all⟩ | excuse
  · obtain ⟨final, _⟩ := offered_of_drained after (senders.trans drained)
    rw [final, same] at offered
    omega
  · exact ⟨t₀, before, after.head (.work works), excuse i (count ▸ left)⟩

end Ending

section Draining

variable {earlier : List UInt64} {t t' : Traffic}

/-- If the loop is about to write, it finds somebody listening, and room. -/
def Roomy (t : Traffic) : Prop :=
  ∀ a, t.writer.phase = .sending a →
    t.writer.outbound.listening = true ∧
      t.writer.outbound.items.length < t.writer.outbound.capacity

/-- There is room for everything that the loop holds. -/
structure Fits (t : Traffic) : Prop where
  listening : t.writer.outbound.listening = true
  room : t.writer.outbound.items.length + t.writer.held.length ≤ t.writer.outbound.capacity

theorem Fits.roomy (fits : Fits t) : Roomy t := by
  intro a sending
  have held : t.writer.held.length = t.writer.queue.items.length + 1 := by
    rw [WriteLoop.held, sending, List.length_cons]
  have room := fits.room
  exact ⟨fits.listening, by omega⟩

/-- With nobody left to send, a loop that always finds room takes, writes, or ends with nothing
left. -/
theorem Works.of_drained (works : Works t t') (h : Ordered earlier t)
    (drained : t.writer.queue.senders = 0) (roomy : t.Roomy) (ended : t'.writer.phase = .ended) :
    t'.writer.sent = t'.offered.length := by
  obtain ⟨sent, same, _⟩ := works.sent_of_ended ended
  rw [sent, same]
  rcases works.excuse h ended with ⟨_, all⟩ | excuse
  · exact Nat.le_antisymm h.enough all
  · cases excuse _ (Nat.le_refl _) with
    | closed sending gone =>
        rw [(roomy _ sending).1] at gone
        cases gone
    | full sending full => exact absurd (roomy _ sending).2 (Nat.not_lt.mpr full)
    | late _ _ held => exact absurd drained held

/-- With nobody left to send, a loop that finds room does not wait. -/
theorem exists_step_of_drained (live : t.Live) (drained : t.writer.queue.senders = 0)
    (roomy : t.Roomy) : ∃ next, t.writer.step t.now = some next := by
  cases step : t.writer.step t.now with
  | some next => exact ⟨next, rfl⟩
  | none =>
      cases WriteLoop.waits_of_step_eq_none step with
      | ended finished => exact absurd finished live
      | idle _ _ held => exact absurd drained held
      | blocked sending _ full => exact absurd (roomy _ sending).2 (Nat.not_lt.mpr full)

/-- As long as the loop finds room whenever it writes, it ends with everything written. -/
theorem Ordered.all_written (h : Ordered earlier t) (live : t.Live)
    (drained : t.writer.queue.senders = 0) (roomy : t.Roomy)
    (reached : ReflTransGen (fun a b => Move a b ∧ b.Roomy) t t') :
    Ordered earlier t' ∧ t'.writer.queue.senders = 0 ∧ t'.Roomy ∧
      (t'.writer.phase = .ended → t'.writer.sent = t'.offered.length) := by
  induction reached with
  | refl => exact ⟨h, drained, roomy, fun finished => absurd finished live⟩
  | @tail b c _ step ih =>
      obtain ⟨move, room⟩ := step
      obtain ⟨ordered, closed, found, all⟩ := ih
      obtain ⟨same, still⟩ := move.offered_of_drained closed
      refine ⟨ordered.move move, still, room, fun ended => ?_⟩
      by_cases finished : b.writer.phase = .ended
      · rw [(move.of_ended finished).2, same, all finished]
      · exact (move.works_of_ended finished ended).of_drained ordered closed found ended

/-- How many moves a loop without senders has before it. -/
def movesLeft (w : WriteLoop) : Nat :=
  match w.phase with
  | .polling _ => 2 * w.queue.items.length + 1
  | .sending _ => 2 * w.queue.items.length + 2
  | .ended => 0

/-- Where everything fits, a move of the loop leaves everything fitting, with one move less to
come. -/
theorem Works.fits (works : Works t t') (fits : Fits t) (drained : t.writer.queue.senders = 0) :
    Fits t' ∧ movesLeft t'.writer < movesLeft t.writer := by
  obtain ⟨step⟩ := works
  obtain ⟨listening, room⟩ := fits
  cases WriteLoop.step_of_eq_some step with
  | took polling queued =>
      refine ⟨⟨listening, ?_⟩, ?_⟩
      · simpa [WriteLoop.held, polling, queued] using room
      · simp [movesLeft, polling, queued]
        omega
  | repolled _ _ held => exact absurd drained held
  | sent sending =>
      refine ⟨⟨listening, ?_⟩, ?_⟩
      · simp [WriteLoop.held, WriteLoop.repoll, sending] at room ⊢
        omega
      · simp [movesLeft, WriteLoop.repoll, sending]
  | drained polling | gaveUp polling =>
      refine ⟨⟨listening, ?_⟩, ?_⟩
      · exact Nat.le_trans (Nat.add_le_add_left (Nat.zero_le _) _) room
      · simp [movesLeft, WriteLoop.finish, polling]
  | refused sending | abandoned sending =>
      refine ⟨⟨listening, ?_⟩, ?_⟩
      · exact Nat.le_trans (Nat.add_le_add_left (Nat.zero_le _) _) room
      · simp [movesLeft, WriteLoop.finish, sending]

/-- Where everything fits, a loop without senders gets to its end by itself, at the same tick. -/
theorem exists_end_of_fits (live : t.Live) (drained : t.writer.queue.senders = 0) (fits : Fits t) :
    ∃ t', ReflTransGen (fun a b => Works a b ∧ b.Roomy) t t' ∧ t'.now = t.now ∧
      t'.writer.phase = .ended := by
  induction hn : movesLeft t.writer using Nat.strongRecOn generalizing t with
  | _ n ih =>
      obtain ⟨⟨w, events⟩, step⟩ := exists_step_of_drained live drained fits.roomy
      have works : Works t { t with writer := w } := .work step
      obtain ⟨still, less⟩ := works.fits fits drained
      by_cases finished : w.phase = .ended
      · exact ⟨_, .single ⟨works, still.roomy⟩, rfl, finished⟩
      · have closed := ((Move.work works).offered_of_drained drained).2
        obtain ⟨t', onward, clock, ended⟩ :=
          ih (movesLeft w) (hn ▸ less) (t := { t with writer := w }) finished closed still rfl
        exact ⟨t', onward.head ⟨works, still.roomy⟩, clock, ended⟩

end Draining

section Idling

variable {t t' : Traffic} {deadline : Nat}

/-- The queue is empty and somebody could still send. -/
def Quiet (t : Traffic) : Prop :=
  t.writer.queue.items = [] ∧ t.writer.queue.senders ≠ 0

/-- A loop that is told that the session is done, in a wait that ends at a deadline. -/
structure Expires (deadline : Nat) (t : Traffic) : Prop where
  polling : t.writer.phase = .polling deadline
  done : t.writer.done = true
  quiet : t.Quiet

/-- The one move of such a loop is its end, and the deadline is when it makes it. -/
theorem Expires.step_eq (e : Expires deadline t) : t.writer.step t.now =
    if deadline ≤ t.now then some (t.writer.finish, [t.writer.finishEvent]) else none := by
  obtain ⟨polling, done, empty, held⟩ := e
  simp only [WriteLoop.step, polling, Queue.receive, empty, if_neg held, done, if_true]

/-- As long as the queue stays empty, the wait goes on or the loop has ended. -/
theorem Expires.move (e : Expires deadline t) (move : Move t t') (quiet : t'.Quiet) :
    t'.writer.sent = t.writer.sent ∧ (t'.writer.phase = .ended ∨ Expires deadline t') := by
  cases move with
  | work works =>
      obtain ⟨step⟩ := works
      rw [e.step_eq] at step
      split at step
      · cases step
        exact ⟨rfl, Or.inl rfl⟩
      · cases step
  | offer | refuse | addSender | dropSender | read | hangUp | pass =>
      exact ⟨rfl, Or.inr ⟨e.polling, e.done, quiet⟩⟩
  | finish => exact ⟨rfl, Or.inr ⟨e.polling, rfl, quiet⟩⟩

theorem Expires.reaches (e : Expires deadline t)
    (reached : ReflTransGen (fun a b => Move a b ∧ b.Quiet) t t') :
    t'.writer.sent = t.writer.sent ∧ (t'.writer.phase = .ended ∨ Expires deadline t') := by
  induction reached with
  | refl => exact ⟨rfl, Or.inr e⟩
  | tail _ step ih =>
      obtain ⟨move, quiet⟩ := step
      rcases ih with ⟨same, finished | going⟩
      · obtain ⟨still, count⟩ := move.of_ended finished
        exact ⟨count.trans same, Or.inl still⟩
      · obtain ⟨count, next⟩ := going.move move quiet
        exact ⟨count.trans same, next⟩

end Idling

/-- The write loop flushes what it can, whatever its queues hold at the start and whatever the
others do with them. What it has written is the beginning of what it was offered, as long as its
count. The far side has read it, or finds it queued, after what was queued at the start; if it hangs
up it misses what was queued then. What the loop leaves when it has ended has its reason in the
state in which it ended. Once the senders are gone, a loop that finds room whenever it writes never
waits and ends with everything written, whether or not it has been told that the session is done;
where there is room for everything it gets there by itself. A loop that has been told so, with an
empty queue and a sender left, ends at the deadline of its wait. -/
theorem flushes (attempt poll : Nat) (queue outbound : Queue UInt64) (done : Bool) (now : Nat)
    (t : Traffic) (reached : ReflTransGen Move (begun attempt poll queue outbound done now) t) :
    (t.writer.written = t.offered.take t.writer.sent ∧ t.writer.sent ≤ t.offered.length ∧
      t.taken ++ t.writer.outbound.items <+: outbound.items ++ t.writer.written ∧
      (t.writer.outbound.listening = true →
        t.taken ++ t.writer.outbound.items = outbound.items ++ t.writer.written)) ∧
    (t.writer.phase = .ended → ∀ i, t.writer.sent ≤ i → i < t.offered.length →
      ∃ t₀, ReflTransGen Move (begun attempt poll queue outbound done now) t₀ ∧
        ReflTransGen Move t₀ t ∧ Excuse t₀ i) ∧
    (t.writer.phase ≠ .ended → t.writer.queue.senders = 0 →
      (t.Roomy → ∀ t', ReflTransGen (fun a b => Move a b ∧ b.Roomy) t t' →
        (t'.writer.phase ≠ .ended → ∃ next, t'.writer.step t'.now = some next) ∧
        (t'.writer.phase = .ended → t'.offered = t.offered ∧
          t'.writer.sent = t'.offered.length)) ∧
      (t.Fits → ∃ t', ReflTransGen Works t t' ∧ t'.now = t.now ∧ t'.writer.phase = .ended ∧
        t'.writer.sent = t.offered.length)) ∧
    (∀ deadline, t.writer.phase = .polling deadline → t.writer.done = true → t.Quiet →
      ∀ t', ReflTransGen (fun a b => Move a b ∧ b.Quiet) t t' →
        t'.writer.sent = t.writer.sent ∧
        (t'.writer.phase ≠ .ended → t'.writer.step t'.now =
          if deadline ≤ t'.now then some (t'.writer.finish, [t'.writer.finishEvent])
          else none)) := by
  have start := ordered_begun attempt poll queue outbound done now
  have ordered := start.reaches reached
  refine ⟨⟨ordered.written, ordered.enough, ordered.passed.missing, ordered.passed.all⟩,
    ?reasons, ?drains, ?expires⟩
  case reasons =>
    intro ended i left offered
    exact start.exists_excuse nofun reached ended left offered
  case drains =>
    intro live drained
    have same {t' : Traffic} (path : ReflTransGen (fun a b => Move a b ∧ b.Roomy) t t') :
        t'.offered = t.offered :=
      (offered_of_drained (ReflTransGen.mono (fun _ _ => And.left) _ _ path) drained).1
    refine ⟨fun roomy t' onward => ?_, fun fits => ?_⟩
    · obtain ⟨_, closed, room, all⟩ := ordered.all_written live drained roomy onward
      exact ⟨fun going => exists_step_of_drained going closed room,
        fun ended => ⟨same onward, all ended⟩⟩
    · obtain ⟨t', alone, clock, ended⟩ := exists_end_of_fits live drained fits
      have onward : ReflTransGen (fun a b => Move a b ∧ b.Roomy) t t' :=
        ReflTransGen.mono (fun _ _ step => ⟨.work step.1, step.2⟩) _ _ alone
      obtain ⟨_, _, _, all⟩ := ordered.all_written live drained fits.roomy onward
      refine ⟨t', ReflTransGen.mono (fun _ _ => And.left) _ _ alone, clock, ended, ?_⟩
      rw [all ended, same onward]
  case expires =>
    intro deadline polling done quiet t' onward
    obtain ⟨same, next⟩ := (Expires.mk polling done quiet).reaches onward
    refine ⟨same, fun live => ?_⟩
    rcases next with finished | waiting
    · exact absurd finished live
    · exact waiting.step_eq

/-- Two acknowledgements for an outbound queue of one place, which nobody reads: the second is left
when the session is done. Three that nobody can add to, with room, are written although it is done
from the start. A loop with nothing to write is done at the end of its first wait. -/
theorem flushes_blocked_drained_idle :
    let blocked := begun 1 500 ⟨4, [1, 2], 1, true⟩ ⟨1, [], 1, true⟩ false 0
    let drained := begun 1 500 ⟨4, [1, 2, 3], 0, true⟩ ⟨4, [], 1, true⟩ true 0
    let idle := begun 1 500 ⟨4, [], 1, true⟩ ⟨4, [], 1, true⟩ true 0
    (∃ t t₀, ReflTransGen Move blocked t ∧ t.writer.phase = .ended ∧ t.writer.sent = 1 ∧
      t.now = 1000 ∧
      ReflTransGen Move blocked t₀ ∧ Excuse t₀ 1) ∧
    (∃ t, ReflTransGen Works drained t ∧ t.now = 0 ∧ t.writer.phase = .ended ∧ t.writer.sent = 3) ∧
    (idle.writer.step 499 = none ∧
      (idle.writer.step 500).map Prod.fst = some idle.writer.finish) := by
  intro blocked drained idle
  refine ⟨?_, ?_, ?_⟩
  · have took : ReflTransGen Move blocked _ := .single (.work (.work rfl))
    have wrote := took.tail (.work (.work rfl))
    have stuck := wrote.tail (.work (.work rfl))
    have ended := ((stuck.tail (.pass 1000)).tail .finish).tail (.work (.work rfl))
    obtain ⟨_, reasons, _⟩ := flushes 1 500 ⟨4, [1, 2], 1, true⟩ ⟨1, [], 1, true⟩ false 0 _ ended
    obtain ⟨t₀, before, _, excuse⟩ := reasons rfl 1 (by decide) (by decide)
    exact ⟨_, t₀, ended, rfl, rfl, rfl, before, excuse⟩
  · obtain ⟨_, _, drains, _⟩ :=
      flushes 1 500 ⟨4, [1, 2, 3], 0, true⟩ ⟨4, [], 1, true⟩ true 0 drained .refl
    exact (drains nofun rfl).2 ⟨rfl, by decide⟩
  · obtain ⟨_, _, _, expires⟩ := flushes 1 500 ⟨4, [], 1, true⟩ ⟨4, [], 1, true⟩ true 0 idle .refl
    have quiet (n : Nat) :
        ReflTransGen (fun a b => Move a b ∧ b.Quiet) idle { idle with now := 0 + n } :=
      .single ⟨.pass n, rfl, nofun⟩
    have early := (expires 500 rfl rfl ⟨rfl, nofun⟩ _ (quiet 499)).2 nofun
    have due := (expires 500 rfl rfl ⟨rfl, nofun⟩ _ (quiet 500)).2 nofun
    exact ⟨early, congrArg (Option.map Prod.fst) due⟩

end Traffic

end DuplexStream
