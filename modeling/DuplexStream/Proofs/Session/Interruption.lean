import DuplexStream.Proofs.Session.Clock
import DuplexStream.Proofs.Session.Frame
import DuplexStream.Proofs.Session.Promptness
import Mathlib.Order.Nat

/-!
# A shutdown in the middle of a session

Two sessions that differ only in a shutdown planned for a tick go side by side until the turn of the
surroundings at that tick. There one of them ends, and the other goes on (`Session.run_shutAt`).
-/

namespace DuplexStream

theorem Moment.reached_iff (m : Moment) (tick : Nat) :
    m.reached tick = true ↔ tick < m.tick ∨ tick = m.tick ∧ m.settled = true := by
  simp [reached]

theorem Moment.not_reached_iff (m : Moment) (tick : Nat) :
    m.reached tick = false ↔ m.tick < tick ∨ m.tick = tick ∧ m.settled = false := by
  rw [← Bool.not_eq_true, reached_iff, ← Bool.not_eq_true]
  grind

namespace Session

variable {limit tick : Nat} {s s' : Session}

/-- The session with a shutdown planned for a tick. -/
def shutAt (s : Session) (tick : Nat) : Session :=
  { s with shutdownAt := some tick }

section Frame

/-- The read loop does not look at what is planned. -/
theorem readStep_shutAt (s : Session) (tick : Nat) :
    (s.shutAt tick).readStep = s.readStep.map fun s' => s'.shutAt tick :=
  readStep_onAside s fun o => { o with shutdownAt := some tick }

/-- The write loop does not look at what is planned. -/
theorem writeStep_shutAt (s : Session) (tick : Nat) :
    (s.shutAt tick).writeStep = s.writeStep.map fun s' => s'.shutAt tick :=
  writeStep_map (fun s => s.shutAt tick) rfl rfl fun _ _ _ => rfl

theorem step_shutAt (s : Session) (tick : Nat) :
    (s.shutAt tick).step = s.step.map fun s' => s'.shutAt tick :=
  step_map (fun s => s.shutAt tick) (fun _ _ => rfl) (readStep_shutAt s tick)
    (writeStep_shutAt s tick)

theorem quiet_shutAt (quiet : s.Quiet) : (s.shutAt tick).Quiet := by
  constructor
  · rw [readStep_shutAt, quiet.1, Option.map_none]
  · rw [writeStep_shutAt, quiet.2, Option.map_none]

theorem settle_shutAt (early : s.now < tick) (unplanned : s.shutdownAt = none) :
    (s.shutAt tick).settle = s.settle.shutAt tick := by
  have late : isDue (some tick) s.now = false := by simpa [isDue] using early
  have never : isDue none s.now = false := rfl
  simp only [settle, shutAt, stillPlanned, unplanned, late, never, Bool.false_eq_true, if_false]
  rfl

/-- The planned shutdown is one more timer. -/
theorem nextTick_shutAt (s : Session) (limit tick : Nat) (unplanned : s.shutdownAt = none) :
    (s.shutAt tick).nextTick limit = min (s.nextTick limit) tick := by
  have timers (x : Nat) : x ∈ (s.shutAt tick).timers ↔ x ∈ s.timers ∨ x = tick := by
    simp only [Session.timers, shutAt, unplanned, List.mem_filterMap, List.mem_cons, id,
      List.not_mem_nil]
    grind
  apply eq_of_forall_le_iff
  intro c
  rw [nextTick, nextTick, Nat.le_min, le_foldl_min_iff, le_foldl_min_iff]
  simp only [timers, or_imp, forall_and, forall_eq, and_assoc]

theorem advance_shutAt (unplanned : s.shutdownAt = none) (before : (s.advance limit).now ≤ tick) :
    (s.shutAt tick).advance limit = (s.advance limit).shutAt tick := by
  have hle : s.nextTick limit ≤ tick := Nat.le_trans (Nat.le_max_right _ _) before
  simp only [advance, nextTick_shutAt s limit tick unplanned, Nat.min_eq_left hle]
  rfl

end Frame

section Waiting

/-- A stream that has nothing yet has nothing until its wait is over. -/
theorem pending_later {i : Inbound} {now later : Nat} (pending : i.poll now = .pending)
    (early : ∀ wake, i.wake = some wake → later < wake) : i.poll later = .pending := by
  have polls := i.polls_poll now
  rw [pending] at polls
  cases polls with
  | waiting steps wake => simp [Inbound.poll, steps, wake, early _ wake]
  | held steps finish => simp [Inbound.poll, steps, finish]

/-- Loops that wait go on waiting until a timer fires. -/
theorem Quiet.later (quiet : s.Quiet) (early : ∀ timer ∈ s.timers, s'.now < timer)
    (reading : s'.reading = s.reading) (stop : s'.stop? = s.stop?)
    (inbound : s'.inbound = s.inbound) (writer : s'.writer = s.writer) : s'.Quiet := by
  constructor
  · cases readWaits_of_readStep quiet.1 with
    | ended ended => simp only [readStep, reading, ended]
    | receiving receiving calm arrival =>
        have pending : s.inbound.poll s'.now = .pending := by
          apply pending_later arrival
          intro wake hw
          exact early wake (wake_mem_timers receiving hw)
        simp only [readStep, reading, receiving, stop, calm, inbound, pending]
    | @queueing a queueing calm listening full =>
        have send : s.writer.queue.send a = .full := by
          simp [Queue.send, listening, Nat.not_lt.mpr full]
        simp only [readStep, reading, queueing, stop, calm, writer, send]
  · have waits : s.writer.step s'.now = none := by
      cases writeStep_eq_none quiet.2 with
      | ended phase => simp [WriteLoop.step, phase]
      | @idle deadline polling empty held =>
          have hlt : s'.now < deadline := by
            apply early
            simp [timers, WriteLoop.deadline?, polling]
          simp [WriteLoop.step, polling, Queue.receive, empty, held, Nat.not_le.mpr hlt]
      | @blocked a sending listening full running =>
          have send : s.writer.outbound.send a = .full := by
            simp [Queue.send, listening, Nat.not_lt.mpr full]
          simp [WriteLoop.step, sending, send, running]
    simp only [writeStep, writer, waits]

end Waiting

section Moments

/-- No time passes, nothing that is planned changes, and a loop that reads on has not been
cancelled. -/
structure Instant (s s' : Session) : Prop where
  now : s'.now = s.now
  settled : s'.settled = s.settled
  cancelAt : s'.cancelAt = s.cancelAt
  shutdownAt : s'.shutdownAt = s.shutdownAt
  cancel : (∀ t, s'.reading ≠ .ended t) → s'.cancel = s.cancel

theorem instant_afterMessage (s : Session) : Instant s s.afterMessage := by
  rcases s.afterMessage_cases with ⟨_, he⟩ | ⟨_, he⟩
  · rw [he]
    exact ⟨rfl, rfl, rfl, rfl, fun live => absurd rfl (live .localCancel)⟩
  · rw [he]
    exact ⟨rfl, rfl, rfl, rfl, fun _ => rfl⟩

theorem Instant.of_same {a : Session} (h : Instant a s') (now : a.now = s.now)
    (settled : a.settled = s.settled) (cancelAt : a.cancelAt = s.cancelAt)
    (shutdownAt : a.shutdownAt = s.shutdownAt) (cancel : a.cancel = s.cancel) : Instant s s' :=
  ⟨h.now.trans now, h.settled.trans settled, h.cancelAt.trans cancelAt,
    h.shutdownAt.trans shutdownAt, fun live => (h.cancel live).trans cancel⟩

theorem Reads.instant (h : Reads s s') : Instant s s' := by
  cases h with
  | data receiving calm arrival verdict =>
      cases verdict with
      | plain => exact (instant_afterMessage _).of_same rfl rfl rfl rfl rfl
      | passed => exact (instant_afterMessage _).of_same rfl rfl rfl rfl rfl
      | unwanted => exact (instant_afterMessage _).of_same rfl rfl rfl rfl rfl
      | queueing => exact ⟨rfl, rfl, rfl, rfl, fun _ => rfl⟩
  | queued => exact (instant_afterMessage _).of_same rfl rfl rfl rfl rfl
  | refused => exact (instant_afterMessage _).of_same rfl rfl rfl rfl rfl
  | stopped => exact ⟨rfl, rfl, rfl, rfl, fun _ => rfl⟩
  | closed => exact ⟨rfl, rfl, rfl, rfl, fun _ => rfl⟩
  | failed => exact ⟨rfl, rfl, rfl, rfl, fun _ => rfl⟩
  | moved => exact ⟨rfl, rfl, rfl, rfl, fun _ => rfl⟩
  | ignored => exact ⟨rfl, rfl, rfl, rfl, fun _ => rfl⟩

theorem Instant.fresh (h : Instant s s') (fresh : s.Fresh) : s'.Fresh := by
  simp only [Fresh, h.now, h.settled, h.cancelAt, h.shutdownAt]
  exact fresh

theorem instant_of_step (h : s.step = some s') : Instant s s' := by
  obtain ⟨s₁, turn, move, rfl⟩ := step_eq_some h
  rcases move with move | move
  · have instant := (reads_of_readStep move).instant
    exact ⟨instant.now, instant.settled, instant.cancelAt, instant.shutdownAt, instant.cancel⟩
  · obtain ⟨w, events, _, rfl⟩ := writeStep_eq_some move
    exact ⟨rfl, rfl, rfl, rfl, fun _ => rfl⟩

theorem ended_of_step {t : Ending} (h : s.step = some s') (ended : s.reading = .ended t) :
    s'.reading = .ended t := by
  obtain ⟨s₁, turn, move, rfl⟩ := step_eq_some h
  rcases move with move | move
  · exact absurd ended ((reads_of_readStep move).live t)
  · obtain ⟨w, events, _, rfl⟩ := writeStep_eq_some move
    exact ended

/-- A repetition of a run is a move of a loop, or the surroundings have their turn, or the clock
goes on. -/
theorem next_cases (h : s.next limit = some s') :
    s.step = some s' ∨
    (s.Quiet ∧ s.isFinished = false ∧ s.now < limit ∧ s.unsettled = true ∧ s' = s.settle) ∨
    (s.Quiet ∧ s.isFinished = false ∧ s.now < limit ∧ s.unsettled = false ∧
      s' = s.advance limit) := by
  cases hs : s.step with
  | some s₁ =>
      simp only [next, hs, Option.some.injEq] at h
      exact Or.inl (congrArg some h)
  | none =>
      have waits := step_eq_none hs
      apply Or.inr
      cases next_of_eq_some h with
      | read turn move => simp [waits.1] at move
      | write turn move => simp [waits.2] at move
      | settle quiet running early due => exact Or.inl ⟨quiet, running, early, due, rfl⟩
      | advance quiet running early idle => exact Or.inr ⟨quiet, running, early, idle, rfl⟩

/-- What has happened stays so. -/
theorem reached_next (h : s.next limit = some s') (past : s.moment.reached tick = true) :
    s'.moment.reached tick = true := by
  rw [Moment.reached_iff] at past ⊢
  rcases next_cases h with move | ⟨_, _, _, _, rfl⟩ | ⟨_, _, _, _, rfl⟩
  · have instant := instant_of_step move
    simp only [moment, instant.now, instant.settled] at past ⊢
    exact past
  · exact past.imp_right fun now => ⟨now.1, rfl⟩
  · have later : s.now < (s.advance limit).now := Nat.le_max_left _ _
    simp only [moment] at past ⊢
    omega

theorem reached_run (poll : 1 ≤ s.writer.poll) (past : s.moment.reached tick = true) :
    (s.run limit).moment.reached tick = true := by
  revert past
  apply run_induction limit ?_ ?_ poll
  · intro s h past
    rwa [run_of_over h]
  · intro s s' poll h ih past
    rw [run_of_next poll h]
    exact ih (reached_next h past)

end Moments

/-- Nothing is planned for a session, and while it goes on nobody has cancelled it. -/
structure Undisturbed (s : Session) : Prop where
  cancelAt : s.cancelAt = none
  shutdownAt : s.shutdownAt = none
  unasked : (∀ t, s.reading ≠ .ended t) → s.cancel.requested = false

section Comparison

theorem Undisturbed.next (h : Undisturbed s) (next : s.next limit = some s') :
    Undisturbed s' := by
  rcases next_cases next with move | ⟨_, _, _, _, rfl⟩ | ⟨_, _, _, _, rfl⟩
  · have instant := instant_of_step move
    refine ⟨instant.cancelAt.trans h.cancelAt, instant.shutdownAt.trans h.shutdownAt, ?_⟩
    intro live
    rw [instant.cancel live]
    apply h.unasked
    intro t ended
    exact live t (ended_of_step move ended)
  · have idle : isDue s.cancelAt s.now = false := by simp [h.cancelAt, isDue]
    refine ⟨?_, ?_, ?_⟩
    · simp [settle, stillPlanned, h.cancelAt]
    · simp [settle, stillPlanned, h.shutdownAt]
    · simpa [settle, idle] using h.unasked
  · exact ⟨h.cancelAt, h.shutdownAt, h.unasked⟩

/-- Until the shutdown is due the two sessions go side by side. -/
theorem next_shutAt (unplanned : s.shutdownAt = none) (next : s.next limit = some s')
    (early : s'.moment.reached tick = false) :
    (s.shutAt tick).next limit = some (s'.shutAt tick) := by
  rw [Moment.not_reached_iff] at early
  rcases next_cases next with move | ⟨quiet, running, short, due, rfl⟩ |
    ⟨quiet, running, short, idle, rfl⟩
  · have side := step_shutAt s tick
    rw [move] at side
    simp only [Session.next, side, Option.map_some]
  · have before : s.now < tick := by
      rcases early with before | ⟨_, unsettled⟩
      · exact before
      · exact absurd unsettled (by simp [moment, settle])
    rw [← settle_shutAt before unplanned]
    exact next_settle (quiet_shutAt quiet) running short due
  · have before : (s.advance limit).now ≤ tick := by
      simp only [moment] at early
      omega
    rw [← advance_shutAt unplanned before]
    exact next_advance (quiet_shutAt quiet) running short idle

/-- A session that is over has nothing to do with a shutdown either. -/
theorem over_shutAt (halted : s.next limit = none) : (s.shutAt tick).next limit = none := by
  obtain ⟨quiet, ended⟩ := over_of_next_eq_none halted
  exact next_eq_none (quiet_shutAt quiet) ended

/-- What a session comes to that a shutdown ends at a tick. -/
structure CutAt (tick : Nat) (s last : Session) : Prop where
  moment : last.moment = ⟨tick, true⟩
  report : ∃ r, last.report? = some r ∧ r.outcome = .failed .localTaskCancelled ∧
    r.elapsed = tick - s.openedAt ∧ r.attempt = s.attempt

/-- At the turn of the surroundings at the tick of the shutdown a session that waits is at its
end. -/
theorem cutAt_of_due (attended : Attended s) (poll : 1 ≤ s.writer.poll)
    (unasked : (∀ t, s.reading ≠ .ended t) → s.cancel.requested = false)
    (never : s.cancelAt = none) (planned : s.shutdownAt = some s.now)
    (unsettled : s.settled = false)
    (quiet : s.Quiet) (running : s.isFinished = false) (early : s.now < limit) :
    CutAt s.now s (s.run limit) := by
  have live (t : Ending) : s.reading ≠ .ended t := by
    intro ended
    simp [attended.finished_of_quiet quiet ended] at running
  have turn : s.next limit = some s.settle := by
    apply next_settle quiet running early
    simp [Session.unsettled, unsettled]
  have calm : s.cancel.requested = false := unasked live
  have same : s.settle.cancel = s.cancel := by simp [settle, never, isDue]
  have ceases : Ceases .taskCancelled s.settle := by
    have signalled : s.cancel.signalled = false := attended.flag.symm.trans calm
    apply Ceases.stopped
    · exact live
    · simp [stop?, settle, never, planned, isDue, signalled]
  have attended' := attended.reaches (reaches_settle s)
  obtain ⟨ceased, _, r, report, outcome, elapsed, attempt, _⟩ := ceases.run attended' poll limit
  rw [run_of_next poll turn]
  constructor
  · rw [moment, ceased.now, ceased.settled]
    rfl
  · refine ⟨r, report, ?_, elapsed, attempt⟩
    rw [outcome, same, calm]
    rfl

/-- A clock that would go past the tick of the shutdown stops there, where nothing else is due. -/
theorem cutAt_of_jump (attended : Attended s) (poll : 1 ≤ s.writer.poll) (h : Undisturbed s)
    (quiet : s.Quiet) (running : s.isFinished = false) (short : s.now < limit)
    (idle : s.unsettled = false) (early : s.now < tick) (jump : tick < s.nextTick limit) :
    CutAt tick s ((s.shutAt tick).run limit) := by
  have attended' : Attended (s.shutAt tick) := ⟨attended.done, attended.senders, attended.flag⟩
  have timers := nextTick_le limit s
  let u := (s.shutAt tick).advance limit
  have now : u.now = tick := by
    change max (s.now + 1) ((s.shutAt tick).nextTick limit) = tick
    rw [nextTick_shutAt s limit tick h.shutdownAt]
    omega
  have waiting : u.Quiet := by
    have later : ∀ timer ∈ s.timers, u.now < timer := by
      intro timer mem
      have := timers.2 timer mem
      omega
    exact quiet.later later rfl rfl rfl rfl
  have cut : CutAt u.now u (u.run limit) := by
    apply cutAt_of_due
    · exact attended'.reaches (reaches_advance _ _)
    · exact poll
    · exact h.unasked
    · exact h.cancelAt
    · rw [now]
      rfl
    · rfl
    · exact waiting
    · exact running
    · omega
  have turn : (s.shutAt tick).next limit = some u :=
    next_advance (quiet_shutAt quiet) running short idle
  rw [now] at cut
  rw [run_of_next (s := s.shutAt tick) poll turn]
  exact ⟨cut.moment, cut.report⟩

/-- A session is cut where the other one would go past the tick of the shutdown. -/
theorem cutAt_of_next (attended : Attended s) (poll : 1 ≤ s.writer.poll) (h : Undisturbed s)
    (next : s.next limit = some s') (early : s.moment.reached tick = false)
    (late : s'.moment.reached tick = true) : CutAt tick s ((s.shutAt tick).run limit) := by
  have attended' : Attended (s.shutAt tick) := ⟨attended.done, attended.senders, attended.flag⟩
  rw [Moment.not_reached_iff] at early
  rw [Moment.reached_iff] at late
  rcases next_cases next with move | ⟨quiet, running, short, due, rfl⟩ |
    ⟨quiet, running, short, idle, rfl⟩
  · have instant := instant_of_step move
    simp only [moment, instant.now, instant.settled] at early late
    grind
  · have now : s.now = tick ∧ s.settled = false := by
      simp only [moment, settle] at early late
      grind
    obtain ⟨rfl, unsettled⟩ := now
    obtain ⟨cut, report⟩ := cutAt_of_due attended' poll h.unasked h.cancelAt rfl unsettled
      (quiet_shutAt quiet) running short
    exact ⟨cut, report⟩
  · have settled : s.settled = true := by
      simp [Session.unsettled] at idle
      exact idle.1
    have now : s.now < tick := by
      simp only [moment, settled] at early
      simpa using early
    have jump : tick < s.nextTick limit := by
      have past : tick < (s.advance limit).now := by simpa [moment, advance] using late
      simp only [advance] at past
      omega
    exact cutAt_of_jump attended poll h quiet running short idle now jump

/-- A session to which a shutdown comes is cut at its tick, or it has ended before, and then the
shutdown has changed nothing. -/
theorem run_shutAt (attended : Attended s) (poll : 1 ≤ s.writer.poll) (h : Undisturbed s)
    (early : s.moment.reached tick = false) (limit : Nat) :
    ((s.run limit).moment.reached tick = false ∧
      (s.shutAt tick).run limit = (s.run limit).shutAt tick) ∨
    ((s.run limit).moment.reached tick = true ∧ CutAt tick s ((s.shutAt tick).run limit)) := by
  induction hn : s.rank limit using Nat.strong_induction_on generalizing s with
  | h n ih =>
      cases next : s.next limit with
      | none =>
          rw [run_of_over next, run_of_over (over_shutAt next)]
          exact Or.inl ⟨early, rfl⟩
      | some s' =>
          have step := next_of_eq_some next
          have continues := (reaches_next step).continues
          have poll' : 1 ≤ s'.writer.poll := continues.poll ▸ poll
          rw [run_of_next poll next]
          cases late : s'.moment.reached tick with
          | true =>
              exact Or.inr ⟨reached_run poll' late, cutAt_of_next attended poll h next early late⟩
          | false =>
              have side := next_shutAt h.shutdownAt next late
              rw [run_of_next (s := s.shutAt tick) poll side]
              have ends := ih _ (hn ▸ rank_lt_of_next poll step)
                (attended.reaches (reaches_next step)) poll' (h.next next) late rfl
              refine ends.imp_right (And.imp_right fun cut => ⟨cut.moment, ?_⟩)
              rw [← continues.openedAt, ← continues.attempt]
              exact cut.report

end Comparison

end Session

end DuplexStream
