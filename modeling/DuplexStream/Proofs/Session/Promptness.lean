import DuplexStream.Proofs.Session.AckOrder
import DuplexStream.Proofs.Session.Termination

/-!
# The end of a session takes no time

Once the read loop has ended, the write loop never has to wait: its queue has no sender any more,
and an acknowledgement that finds no room is given up. A session therefore ends at the tick at which
its read loop ends (`Session.Ceases.run`). A request ends the read loop wherever it stands, also
where both loops wait for room.
-/

namespace DuplexStream.Session

variable {limit : Nat} {s s' : Session} {t : Ending}

/-- What the write loop knows of the read loop: it is done when the read loop has ended, and then
nobody sends to its queue. A cancel is signalled as soon as it is recorded. -/
structure Attended (s : Session) : Prop where
  done : s.writer.done = true ↔ ∃ t, s.reading = .ended t
  senders : s.writer.queue.senders = if s.writer.done then 0 else 1
  flag : s.cancel.requested = s.cancel.signalled

section Attended

theorem Attended.running (h : Attended s) (live : ∀ t, s.reading ≠ .ended t) :
    s.writer.done = false := by
  rw [← Bool.not_eq_true, h.done]
  rintro ⟨t, ended⟩
  exact live t ended

theorem attended_of_live (live : ∀ t, s.reading ≠ .ended t) (running : s.writer.done = false)
    (senders : s.writer.queue.senders = 1) (flag : s.cancel.requested = s.cancel.signalled) :
    Attended s := by
  constructor
  · constructor
    · intro done
      simp [running] at done
    · rintro ⟨t, ended⟩
      exact absurd ended (live t)
  · simp [running, senders]
  · exact flag

theorem attended_endReading (t : Ending) (senders : s.writer.queue.senders = 1)
    (flag : s.cancel.requested = s.cancel.signalled) : Attended (s.endReading t) := by
  constructor
  · exact ⟨fun _ => ⟨t, rfl⟩, fun _ => rfl⟩
  · simp [endReading, Queue.dropSender, senders]
  · exact flag

theorem attended_afterMessage (running : s.writer.done = false)
    (senders : s.writer.queue.senders = 1) (flag : s.cancel.requested = s.cancel.signalled) :
    Attended s.afterMessage := by
  rcases s.afterMessage_cases with ⟨_, he⟩ | ⟨_, he⟩
  · rw [he]
    apply attended_endReading
    · exact senders
    · rfl
  · rw [he]
    apply attended_of_live
    · simp
    · exact running
    · exact senders
    · exact flag

theorem Reads.live (move : Reads s s') : ∀ t, s.reading ≠ .ended t := by
  intro t ended
  cases move with
  | stopped live => exact live t ended
  | closed receiving => simp [receiving] at ended
  | failed receiving => simp [receiving] at ended
  | moved receiving => simp [receiving] at ended
  | ignored receiving => simp [receiving] at ended
  | data receiving => simp [receiving] at ended
  | queued queueing => simp [queueing] at ended
  | refused queueing => simp [queueing] at ended

theorem Attended.reads (h : Attended s) (move : Reads s s') : Attended s' := by
  have live := move.live
  have running := h.running live
  have senders : s.writer.queue.senders = 1 := by simp [h.senders, running]
  cases move with
  | stopped => exact attended_endReading _ senders h.flag
  | closed => exact attended_endReading _ senders h.flag
  | failed =>
      apply attended_endReading
      · exact senders
      · exact h.flag
  | moved => exact attended_of_live live running senders h.flag
  | ignored => exact attended_of_live live running senders h.flag
  | data receiving calm arrival verdict =>
      cases verdict with
      | plain => exact attended_afterMessage running senders h.flag
      | passed => exact attended_afterMessage running senders h.flag
      | unwanted => exact attended_afterMessage running senders h.flag
      | queueing =>
          apply attended_of_live
          · simp
          · exact running
          · exact senders
          · exact h.flag
  | queued => exact attended_afterMessage running senders h.flag
  | refused => exact attended_afterMessage running senders h.flag

theorem Attended.writes (h : Attended s) {w : WriteLoop} {events : List Event}
    (move : WriteLoop.Step s.writer s.now w events) :
    Attended ({ s with writer := w }.note events) := by
  have same : w.done = s.writer.done ∧ w.queue.senders = s.writer.queue.senders := by
    cases move <;> exact ⟨rfl, rfl⟩
  constructor
  · change w.done = true ↔ _
    rw [same.1]
    exact h.done
  · change w.queue.senders = if w.done then 0 else 1
    rw [same.1, same.2]
    exact h.senders
  · exact h.flag

/-- Every move keeps what the write loop knows, whatever the peer does. -/
theorem Attended.move (h : Attended s) (move : Move s s') : Attended s' := by
  cases move with
  | read move => exact h.reads (reads_of_readStep move)
  | write move =>
      obtain ⟨w, events, hw, rfl⟩ := writeStep_eq_some move
      exact h.writes hw
  | cancel => exact ⟨h.done, h.senders, rfl⟩
  | shutDown => exact ⟨h.done, h.senders, h.flag⟩
  | take => exact ⟨h.done, h.senders, h.flag⟩
  | hangUp => exact ⟨h.done, h.senders, h.flag⟩
  | pass => exact ⟨h.done, h.senders, h.flag⟩
  | plan => exact ⟨h.done, h.senders, h.flag⟩

theorem Attended.reaches (h : Attended s) (hr : Reaches s s') : Attended s' :=
  hr.keeps (fun _ _ => Attended.move) h

theorem Attended.drawingFrom (h : Attended s) (g : Seeded) : Attended (s.drawingFrom g) :=
  ⟨h.done, h.senders, h.flag⟩

theorem attended_start (plan : SessionPlan) (attempt : Nat) (stream : StreamScript)
    (around : Surroundings) (opened : Moment) :
    Attended (start plan attempt stream around opened) := by
  apply attended_of_live
  · intro t
    exact nofun
  · rfl
  · rfl
  · rfl

/-- A write loop that waits has ended if the read loop has. -/
theorem Attended.finished_of_quiet (h : Attended s) (quiet : s.Quiet)
    (ended : s.reading = .ended t) :
    s.isFinished = true := by
  have done := h.done.mpr ⟨t, ended⟩
  have phase : s.writer.phase = .ended := by
    cases writeStep_eq_none quiet.2 with
    | ended phase => exact phase
    | idle polling empty held => simp [h.senders, done] at held
    | blocked sending listening full running => simp [done] at running
  exact (isFinished_iff s).mpr ⟨⟨t, ended⟩, phase⟩

end Attended

/-- The read loop has ended in this way, or it ends in this way as soon as it moves. -/
inductive Ceases (t : Ending) (s : Session) : Prop
  | ended (ended : s.reading = .ended t)
  | stopped (live : ∀ t, s.reading ≠ .ended t) (stop : s.stop? = some t)
  | closed (receiving : s.reading = .receiving) (calm : s.stop? = none)
      (arrival : s.inbound.poll s.now = .closed) (kind : t = .remoteClosed)
  | failed {st : Status} {rest : Inbound} (receiving : s.reading = .receiving)
      (calm : s.stop? = none) (arrival : s.inbound.poll s.now = .status st rest)
      (kind : t = .status st)

section Ceasing

/-- A read loop that is to end does not read on. -/
theorem Ceases.reads (h : Ceases t s) (move : s.readStep = some s') :
    ∃ rest, s' = { s with inbound := rest }.endReading t := by
  cases h with
  | ended ended => exact absurd ended ((reads_of_readStep move).live t)
  | stopped live stop =>
      rw [readStep_of_stop live stop] at move
      exact ⟨s.inbound, (Option.some.inj move).symm⟩
  | closed receiving calm arrival kind =>
      rw [readStep_eq_answered receiving calm, arrival] at move
      exact ⟨s.inbound, kind ▸ (Option.some.inj move).symm⟩
  | @failed st rest receiving calm arrival kind =>
      rw [readStep_eq_answered receiving calm, arrival] at move
      exact ⟨rest, kind ▸ (Option.some.inj move).symm⟩

/-- Only the read loop looks at how it is to end. -/
theorem Ceases.congr (h : Ceases t s) (reading : s'.reading = s.reading) (stop : s'.stop? = s.stop?)
    (inbound : s'.inbound = s.inbound) (now : s'.now = s.now) : Ceases t s' := by
  cases h with
  | ended ended => exact .ended (reading.trans ended)
  | stopped live stop' =>
      apply Ceases.stopped
      · intro t
        rw [reading]
        exact live t
      · exact stop.trans stop'
  | closed receiving calm arrival kind =>
      apply Ceases.closed
      · exact reading.trans receiving
      · exact stop.trans calm
      · rw [inbound, now]
        exact arrival
      · exact kind
  | failed receiving calm arrival kind =>
      apply Ceases.failed
      · exact reading.trans receiving
      · exact stop.trans calm
      · rw [inbound, now]
        exact arrival
      · exact kind

/-- Where both loops wait, a read loop that is to end has ended, and so has the write loop. -/
theorem Ceases.finished_of_quiet (h : Ceases t s) (attended : Attended s) (quiet : s.Quiet) :
    s.isFinished = true := by
  cases readWaits_of_readStep quiet.1 with
  | ended ended => exact attended.finished_of_quiet quiet ended
  | receiving receiving calm arrival =>
      cases h with
      | ended ended => simp [receiving] at ended
      | stopped live stop => simp [calm] at stop
      | closed _ _ arrival' => simp [arrival] at arrival'
      | failed _ _ arrival' => simp [arrival] at arrival'
  | queueing queueing calm =>
      cases h with
      | ended ended => simp [queueing] at ended
      | stopped live stop => simp [calm] at stop
      | closed receiving => simp [receiving] at queueing
      | failed receiving => simp [receiving] at queueing

/-- A session that another one has become while its read loop came to its end: no time has
passed. -/
structure Ceased (t : Ending) (s s' : Session) : Prop where
  attended : Attended s'
  ceases : Ceases t s'
  cancel : s'.cancel = s.cancel
  count : s'.count = s.count
  now : s'.now = s.now
  settled : s'.settled = s.settled

theorem Ceased.next {s'' : Session} (h : Ceased t s s') (next : Next limit s' s'') :
    Ceased t s s'' := by
  cases next with
  | @read s₁ turn move =>
      have attended := h.attended.reads (reads_of_readStep move)
      obtain ⟨rest, rfl⟩ := h.ceases.reads move
      constructor
      · exact ⟨attended.done, attended.senders, attended.flag⟩
      · exact .ended rfl
      · exact h.cancel
      · exact h.count
      · exact h.now
      · exact h.settled
  | @write s₁ turn move =>
      obtain ⟨w, events, hw, rfl⟩ := writeStep_eq_some move
      have attended := h.attended.writes hw
      constructor
      · exact ⟨attended.done, attended.senders, attended.flag⟩
      · exact h.ceases.congr rfl rfl rfl rfl
      · exact h.cancel
      · exact h.count
      · exact h.now
      · exact h.settled
  | settle quiet running => simp [h.ceases.finished_of_quiet h.attended quiet] at running
  | advance quiet running => simp [h.ceases.finished_of_quiet h.attended quiet] at running

/-- No time passes from the end of the read loop on, whichever loop moves first. -/
theorem Ceases.unfolds (h : Ceases t s) (attended : Attended s) (hu : Unfolds limit s s') :
    Ceased t s s' :=
  hu.keeps (P := Ceased t s) (fun _ _ => Ceased.next) ⟨attended, h, rfl, rfl, rfl, rfl⟩

/-- A run from the end of the read loop on ends at the same tick, with a report. -/
theorem Ceases.run (h : Ceases t s) (attended : Attended s) (poll : 1 ≤ s.writer.poll)
    (limit : Nat) :
    Ceased t s (s.run limit) ∧ (s.run limit).reading = .ended t ∧
      ∃ r, (s.run limit).report? = some r ∧ r.outcome = t.outcome s.cancel.requested ∧
        r.elapsed = s.now - s.openedAt ∧ r.attempt = s.attempt ∧ r.messageCount = s.count := by
  have hu := unfolds_run limit s
  have last := h.unfolds attended hu
  obtain ⟨quiet, _⟩ := over_of_next_eq_none (next_run limit poll)
  have finished := last.ceases.finished_of_quiet last.attended quiet
  obtain ⟨⟨t', ended⟩, phase⟩ := (isFinished_iff _).mp finished
  have kind : t' = t := by
    cases last.ceases with
    | ended ended' => exact Reading.ended.inj (ended.symm.trans ended')
    | stopped live => exact absurd ended (live t')
    | closed receiving => simp [receiving] at ended
    | failed receiving => simp [receiving] at ended
  subst kind
  refine ⟨last, ended, ?_⟩
  have continues := hu.reaches.continues
  simp only [report?, ended, (isEnded_iff _).mpr phase, if_true, Option.some.injEq,
    exists_eq_left']
  refine ⟨?_, ?_, continues.attempt, last.count⟩
  · rw [outcome, last.cancel]
  · rw [elapsed, last.now, continues.openedAt]

end Ceasing

section Requests

theorem ceases_requestCancel (live : ∀ t, s.reading ≠ .ended t) :
    Ceases .localCancel s.requestCancel := by
  apply Ceases.stopped
  · exact live
  · rfl

theorem ceases_shutDown (live : ∀ t, s.reading ≠ .ended t) (calm : s.cancel.signalled = false) :
    Ceases .taskCancelled { s with shutdown := true } := by
  apply Ceases.stopped
  · exact live
  · simp [stop?, calm]

/-- A stream that is at its end ends the read loop. -/
theorem ceases_of_over (receiving : s.reading = .receiving) (calm : s.stop? = none)
    (atEnd : s.inbound.poll s.now = .closed ∨ ∃ st rest, s.inbound.poll s.now = .status st rest) :
    ∃ t, Ceases t s := by
  rcases atEnd with arrival | ⟨st, rest, arrival⟩
  · exact ⟨_, .closed receiving calm arrival rfl⟩
  · exact ⟨_, .failed receiving calm arrival rfl⟩

end Requests

/-- Whatever a session has come to, in whatever order the loops have moved and whatever the peer has
done: a request that comes before the read loop has ended is reported at once, a cancel as intended
and a shutdown as such. An end of the stream is reported at once, too. From the moment at which the
read loop has ended no time passes until the report is there. -/
theorem reported_at_once (plan : SessionPlan) (attempt : Nat) (stream : StreamScript)
    (around : Surroundings) (opened : Moment) (g : Seeded) (s : Session)
    (reached : Reaches ((start plan attempt stream around opened).drawingFrom g) s) (limit : Nat) :
    ((∀ t, s.reading ≠ .ended t) → ∃ r, (s.requestCancel.run limit).report? = some r ∧
      r.outcome = .failed .intentionalCancel ∧ r.elapsed = s.now - opened.tick) ∧
    ((∀ t, s.reading ≠ .ended t) → s.cancel.requested = false →
      ∃ r, ({ s with shutdown := true }.run limit).report? = some r ∧
        r.outcome = .failed .localTaskCancelled ∧ r.elapsed = s.now - opened.tick) ∧
    (s.reading = .receiving → s.stop? = none →
      (s.inbound.poll s.now = .closed ∨ ∃ st rest, s.inbound.poll s.now = .status st rest) →
      ∃ r, (s.run limit).report? = some r ∧ r.elapsed = s.now - opened.tick) ∧
    (∀ t, s.reading = .ended t →
      (∃ r, (s.run limit).report? = some r ∧ r.elapsed = s.now - opened.tick) ∧
      ∀ s', Unfolds limit s s' → s'.now = s.now) := by
  have attended : Attended s :=
    ((attended_start plan attempt stream around opened).drawingFrom g).reaches reached
  have continues := reached.continues
  have openedAt : s.openedAt = opened.tick := continues.openedAt
  have poll : 1 ≤ s.writer.poll := by
    rw [continues.poll]
    exact Nat.le_max_left 1 plan.writePoll.ticks
  refine ⟨fun live => ?_, fun live unasked => ?_, fun receiving calm atEnd => ?_, fun t ended => ?_⟩
  · obtain ⟨_, _, r, report, outcome, elapsed, _⟩ :=
      (ceases_requestCancel live).run ⟨attended.done, attended.senders, rfl⟩ poll limit
    exact ⟨r, report, outcome, elapsed.trans (congrArg (s.now - ·) openedAt)⟩
  · have calm : s.cancel.signalled = false := attended.flag.symm.trans unasked
    obtain ⟨_, _, r, report, outcome, elapsed, _⟩ :=
      (ceases_shutDown live calm).run ⟨attended.done, attended.senders, attended.flag⟩ poll limit
    refine ⟨r, report, outcome.trans ?_, elapsed.trans (congrArg (s.now - ·) openedAt)⟩
    change Ending.outcome .taskCancelled s.cancel.requested = _
    rw [unasked]
    rfl
  · obtain ⟨t, ceases⟩ := ceases_of_over receiving calm atEnd
    obtain ⟨_, _, r, report, _, elapsed, _⟩ := ceases.run attended poll limit
    exact ⟨r, report, openedAt ▸ elapsed⟩
  · have ceases : Ceases t s := .ended ended
    constructor
    · obtain ⟨_, _, r, report, _, elapsed, _⟩ := ceases.run attended poll limit
      exact ⟨r, report, openedAt ▸ elapsed⟩
    · intro s' hu
      exact (ceases.unfolds attended hu).now

/-- A session stuck for ten ticks: the read loop has no room for the fourth acknowledgement, the
write loop none for the second. It is cancelled, or shut down; a session whose stream is empty ends
when its read loop first looks. -/
theorem reported_at_once_stuck :
    let plan : SessionPlan := ⟨.reliable ⟨⟨0⟩, some 11⟩, none, .ofMillis 500, 1⟩
    let stream : StreamScript := ⟨[StreamScript.message 7 [], StreamScript.message 5 [],
      StreamScript.message 9 [], StreamScript.message 2 []], .close⟩
    let first (stream : StreamScript) :=
      (start plan 1 stream .quiet .origin).drawingFrom (.ofSeed 12)
    let stuck := (first stream).run 10
    let closed := (first ⟨[], .close⟩).run 10
    Reaches (first stream) stuck ∧ stuck.reading = .queueing 2 ∧ stuck.writer.phase = .sending 5 ∧
      stuck.cancel.requested = false ∧
      (∃ r, (stuck.requestCancel.run 100).report? = some r ∧
        r.outcome = .failed .intentionalCancel ∧ r.elapsed = 10) ∧
      (∃ r, ({ stuck with shutdown := true }.run 100).report? = some r ∧
        r.outcome = .failed .localTaskCancelled ∧ r.elapsed = 10) ∧
      (∃ r, ((first ⟨[], .close⟩).run 100).report? = some r ∧ r.elapsed = 0) ∧
      closed.reading = .ended .remoteClosed ∧
      ∀ s', Unfolds 100 closed s' → s'.now = closed.now := by
  intro plan stream first stuck closed
  have reached (stream : StreamScript) : Reaches (first stream) ((first stream).run 10) :=
    (unfolds_run 10 (first stream)).reaches
  have queueing : stuck.reading = .queueing 2 := by decide +kernel
  have live : ∀ t, stuck.reading ≠ .ended t := by
    intro t
    rw [queueing]
    exact nofun
  have unasked : stuck.cancel.requested = false := by decide +kernel
  have now : stuck.now = 10 := by decide +kernel
  have ended : closed.reading = .ended .remoteClosed := by decide +kernel
  have h := reported_at_once plan 1 stream .quiet .origin (.ofSeed 12) stuck (reached stream) 100
  have begun := reported_at_once plan 1 ⟨[], .close⟩ .quiet .origin (.ofSeed 12) _ .refl 100
  have finished := reported_at_once plan 1 ⟨[], .close⟩ .quiet .origin (.ofSeed 12) closed
    (reached _) 100
  refine ⟨reached stream, queueing, by decide +kernel, unasked, ?_, ?_, ?_, ended, ?_⟩
  · obtain ⟨r, report, outcome, elapsed⟩ := h.1 live
    exact ⟨r, report, outcome, elapsed.trans (by rw [now]; rfl)⟩
  · obtain ⟨r, report, outcome, elapsed⟩ := h.2.1 live unasked
    exact ⟨r, report, outcome, elapsed.trans (by rw [now]; rfl)⟩
  · exact begun.2.2.1 rfl rfl (Or.inl rfl)
  · exact (finished.2.2.2 _ ended).2

end DuplexStream.Session
