import DuplexStream.Proofs.Session.Pace

/-!
# Sessions at another time and under another number

Nothing in a session depends on when it takes place or on the number of its attempt: when all its
times are moved by the same number of ticks, and its number is exchanged wherever it is told, the
session goes as before (`Session.run_recast`). A session that has ended before the limit of the
clock does not depend on the limit either (`Session.run_longer`).
-/

namespace DuplexStream

/-- An event of a session, told of the attempt with another number. -/
def Event.recast (f : Nat → Nat) : Event → Event
  | .opening a server => .opening (f a) server
  | .ignoredEnvelope a => .ignoredEnvelope (f a)
  | .received a id text => .received (f a) id text
  | .queuedAck a id => .queuedAck (f a) id
  | .writerStopped a id => .writerStopped (f a) id
  | .autoCancelled a elapsed delay => .autoCancelled (f a) elapsed delay
  | .sentAck a id => .sentAck (f a) id
  | .outboundFull a id => .outboundFull (f a) id
  | .outboundClosed a => .outboundClosed (f a)
  | .writeLoopFinished a sent => .writeLoopFinished (f a) sent
  | .ended a count outcome detail => .ended (f a) count outcome detail
  | event => event

@[simp] theorem Event.recast_id : Event.recast id = id := by
  funext event
  cases event <;> rfl

/-- A wait that is over so many ticks later. -/
def Inbound.delayed (d : Nat) (i : Inbound) : Inbound :=
  { i with wake := i.wake.map (· + d) }

/-- An answer of a stream that is played so many ticks later. -/
def Arrival.delayed (d : Nat) : Arrival → Arrival
  | .item e rest => .item e (rest.delayed d)
  | .status st rest => .status st (rest.delayed d)
  | .closed => .closed
  | .moved rest => .moved (rest.delayed d)
  | .pending => .pending

/-- A stream that is played later answers the same later. -/
theorem Inbound.poll_delayed (i : Inbound) (now d : Nat) :
    (i.delayed d).poll (now + d) = (i.poll now).delayed d := by
  obtain ⟨steps, finish, wake⟩ := i
  cases steps with
  | nil => cases finish <;> rfl
  | cons step rest =>
      cases step with
      | send e => rfl
      | wait span =>
          cases wake with
          | none => simp [poll, delayed, Arrival.delayed, Nat.add_right_comm]
          | some tick =>
              by_cases due : tick ≤ now <;> simp [poll, delayed, Arrival.delayed, due]

/-- A peer whose timers run so many ticks later. -/
def Peer.delayed (d : Nat) (p : Peer) : Peer :=
  { p with
    phase := match p.phase with
      | .leaving tick => .leaving (tick + d)
      | .resting tick => .resting (tick + d)
      | .visiting since schedule => .visiting (since + d) schedule
      | phase => phase }

theorem Peer.read_delayed (p : Peer) (now d : Nat) (q : Queue UInt64) :
    (p.delayed d).read (now + d) q = ((p.read now q).1.delayed d, (p.read now q).2) := by
  by_cases never : p.rest = 0
  · simp [read, delayed, never]
  · cases items : q.items <;> simp [read, delayed, never, items, Nat.add_right_comm]

theorem Peer.await_delayed (p : Peer) (later : List Visit) (now d : Nat) (q : Queue UInt64) :
    (p.delayed d).await later (now + d) q =
      ((p.await later now q).1.delayed d, (p.await later now q).2) := by
  cases items : q.items <;> simp [await, delayed, items]

theorem Peer.visit_delayed (p : Peer) (move : PeerMove) (later : List Visit) (now d : Nat)
    (q : Queue UInt64) :
    (p.delayed d).visit move later (now + d) q =
      ((p.visit move later now q).1.delayed d, (p.visit move later now q).2) := by
  cases move with
  | take n => rfl
  | await => exact p.await_delayed later now d q
  | leave => rfl

/-- A peer whose timers run later does the same later. -/
theorem Peer.act_delayed (p : Peer) (now d : Nat) (q : Queue UInt64) :
    (p.delayed d).act (now + d) q = ((p.act now q).1.delayed d, (p.act now q).2) ∧
      (p.delayed d).canAct (now + d) q = p.canAct now q := by
  have read := p.read_delayed now d q
  cases phase : p.phase with
  | leaving tick =>
      by_cases due : tick ≤ now <;> simp [act, canAct, delayed, phase, due]
  | resting tick =>
      have phase' : (p.delayed d).phase = .resting (tick + d) := by simp [delayed, phase]
      by_cases due : tick ≤ now <;> simp [act, canAct, phase, phase', due, read]
  | ready =>
      have phase' : (p.delayed d).phase = .ready := by simp [delayed, phase]
      simp [act, canAct, phase, phase', read]
  | visiting since schedule =>
      have phase' : (p.delayed d).phase = .visiting (since + d) schedule := by
        simp [delayed, phase]
      cases schedule with
      | nil => simp [act, canAct, delayed, phase]
      | cons v later =>
          have visit := p.visit_delayed v.move later now d q
          by_cases due : since + v.rest.ticks ≤ now <;>
            simp [act, canAct, phase, phase', due, visit, Nat.add_right_comm since d]
  | awaiting later =>
      have phase' : (p.delayed d).phase = .awaiting later := by simp [delayed, phase]
      simp [act, canAct, phase, phase', p.await_delayed later now d q]
  | ignoring => simp [act, canAct, delayed, phase]
  | gone => simp [act, canAct, delayed, phase]

namespace WriteLoop

/-- A write loop whose deadline comes so many ticks later, of the attempt with another number. -/
def recast (d : Nat) (f : Nat → Nat) (w : WriteLoop) : WriteLoop :=
  { w with
    attempt := f w.attempt
    phase := match w.phase with
      | .polling deadline => .polling (deadline + d)
      | phase => phase }

theorem step_recast (w : WriteLoop) (now d : Nat) (f : Nat → Nat) :
    (w.recast d f).step (now + d) =
      (w.step now).map fun r => (r.1.recast d f, r.2.map (Event.recast f)) := by
  cases phase : w.phase with
  | ended => simp [step, recast, phase]
  | polling deadline =>
      cases received : w.queue.receive with
      | item a q => simp [step, recast, phase, received]
      | closed => simp [step, recast, phase, received, finish, finishEvent, Event.recast]
      | empty =>
          by_cases late : deadline ≤ now
          · cases done : w.done <;>
              simp [step, recast, phase, received, late, done, repoll, finish, finishEvent,
                Event.recast, Nat.add_right_comm]
          · simp [step, recast, phase, received, late]
  | sending a =>
      cases sent : w.outbound.send a with
      | sent q => simp [step, recast, phase, sent, repoll, Event.recast, Nat.add_right_comm]
      | closed => simp [step, recast, phase, sent, finish, finishEvent, Event.recast]
      | full =>
          cases done : w.done <;>
            simp [step, recast, phase, sent, done, finish, finishEvent, Event.recast]

theorem isEnded_recast (w : WriteLoop) (d : Nat) (f : Nat → Nat) :
    (w.recast d f).isEnded = w.isEnded := by
  cases phase : w.phase <;> simp [isEnded, recast, phase]

end WriteLoop

namespace Session

variable (s : Session) (d : Nat) (f : Nat → Nat)

/-- The session so many ticks later, as the attempt with another number. -/
def recast (d : Nat) (f : Nat → Nat) (s : Session) : Session :=
  { s with
    attempt := f s.attempt
    openedAt := s.openedAt + d
    now := s.now + d
    inbound := s.inbound.delayed d
    writer := s.writer.recast d f
    peer := s.peer.delayed d
    cancelAt := s.cancelAt.map (· + d)
    shutdownAt := s.shutdownAt.map (· + d)
    log := s.log.map (Event.recast f) }

section Moves

theorem note_recast (events : List Event) :
    (s.recast d f).note (events.map (Event.recast f)) = (s.note events).recast d f := by
  simp only [note, recast, List.map_append, List.map_reverse]

theorem elapsed_recast : (s.recast d f).elapsed = s.elapsed :=
  Nat.add_sub_add_right s.now d s.openedAt

theorem fire_recast : (s.recast d f).fire = s.fire.recast d f := by
  rw [fire, elapsed_recast]
  rfl

theorem sideBySide_recast :
    SideBySide (fun s t => t = s.recast d f) fun s t => t = s.recast d f where
  alike side := side ▸ ⟨rfl, rfl, rfl, rfl, rfl⟩
  ending _ side := side ▸ rfl
  message {s _} side :=
    side ▸ afterMessage_map (recast d f) rfl (s.elapsed_recast d f) (s.fire_recast d f) rfl
  layered _ side := side ▸ rfl
  withheld _ _ kind side := by
    rcases kind with rfl | rfl <;> exact side ▸ rfl
  queueing _ side := side ▸ rfl
  queued _ _ side := side ▸ rfl
  refused _ side := side ▸ rfl

theorem answered_recast (answer : Arrival) :
    Option.Rel (fun s t => t = s.recast d f) (s.answered answer)
      ((s.recast d f).answered (answer.delayed d)) := by
  cases answer with
  | item e rest =>
      cases e with
      | data m =>
          have side := (sideBySide_recast d f).acknowledge (s := s.taking m rest) rfl m.id
          exact .some side
      | ack | empty => exact .some rfl
  | status | closed | moved => exact .some rfl
  | pending => exact .none

theorem readStep_recast : (s.recast d f).readStep = s.readStep.map (recast d f) := by
  apply eq_map_of_rel
  apply (sideBySide_recast d f).readStep rfl
  intro _ _
  have later : (s.recast d f).inbound.poll (s.recast d f).now =
      (s.inbound.poll s.now).delayed d := s.inbound.poll_delayed s.now d
  rw [later]
  exact s.answered_recast d f (s.inbound.poll s.now)

theorem writeStep_recast : (s.recast d f).writeStep = s.writeStep.map (recast d f) := by
  have move : (s.recast d f).writer.step (s.recast d f).now =
      (s.writer.step s.now).map fun r => (r.1.recast d f, r.2.map (Event.recast f)) :=
    s.writer.step_recast s.now d f
  cases hw : s.writer.step s.now with
  | none => simp only [writeStep, move, hw, Option.map_none]
  | some r =>
      simp only [writeStep, move, hw, Option.map_some]
      exact congrArg some (note_recast { s with writer := r.1 } d f r.2)

theorem step_recast : (s.recast d f).step = s.step.map (recast d f) :=
  step_map (recast d f) (fun _ _ => rfl) (s.readStep_recast d f) (s.writeStep_recast d f)

end Moves

section Surroundings

theorem isDue_delayed (planned : Option Nat) (now d : Nat) :
    isDue (planned.map (· + d)) (now + d) = isDue planned now := by
  cases planned <;> simp [isDue]

theorem stillPlanned_delayed (planned : Option Nat) (now d : Nat) :
    stillPlanned (planned.map (· + d)) (now + d) = (stillPlanned planned now).map (· + d) := by
  simp only [stillPlanned, isDue_delayed]
  split <;> rfl

theorem settle_recast : (s.recast d f).settle = s.settle.recast d f := by
  have act := (s.peer.act_delayed s.now d s.writer.outbound).1
  have outbound : (s.recast d f).writer.outbound = s.writer.outbound := rfl
  simp only [settle, recast, isDue_delayed, stillPlanned_delayed] at *
  simp only [outbound, act]
  rfl

theorem unsettled_recast : (s.recast d f).unsettled = s.unsettled := by
  have can := (s.peer.act_delayed s.now d s.writer.outbound).2
  simp only [unsettled]
  exact congrArg (!s.settled || ·) can

theorem timers_recast : (s.recast d f).timers = s.timers.map (· + d) := by
  have wake : (s.inbound.delayed d).wake = s.inbound.wake.map (· + d) := rfl
  have deadline : (s.writer.recast d f).deadline? = s.writer.deadline?.map (· + d) := by
    cases phase : s.writer.phase <;> simp [WriteLoop.deadline?, WriteLoop.recast, phase]
  have due : (s.peer.delayed d).due? = s.peer.due?.map (· + d) := by
    cases phase : s.peer.phase with
    | visiting since schedule =>
        cases schedule <;> simp [Peer.due?, Peer.delayed, phase, Nat.add_right_comm since d]
    | _ => simp [Peer.due?, Peer.delayed, phase]
  simp only [timers, recast, wake, deadline, due]
  cases s.reading <;> cases s.inbound.wake <;> cases s.writer.deadline? <;> cases s.cancelAt <;>
    cases s.shutdownAt <;> cases s.peer.due? <;> rfl

theorem foldl_min_add (l : List Nat) (a d : Nat) :
    (l.map (· + d)).foldl min (a + d) = l.foldl min a + d := by
  induction l generalizing a with
  | nil => rfl
  | cons x l ih =>
      have least : min (a + d) (x + d) = min a x + d := by omega
      simp only [List.map_cons, List.foldl_cons, least, ih]

theorem advance_recast {limit : Nat} (early : d ≤ limit) :
    (s.recast d f).advance limit = (s.advance (limit - d)).recast d f := by
  have next : (s.recast d f).nextTick limit = s.nextTick (limit - d) + d := by
    have timers := foldl_min_add s.timers (limit - d) d
    rw [Nat.sub_add_cancel early] at timers
    rw [nextTick, timers_recast, timers, nextTick]
  have tick : max (s.now + d + 1) ((s.recast d f).nextTick limit) =
      max (s.now + 1) (s.nextTick (limit - d)) + d := by omega
  simp only [advance]
  exact congrArg (fun now => { s.recast d f with now := now, settled := false, turn := .reader })
    tick

end Surroundings

section Runs

variable (limit : Nat)

theorem isFinished_recast : (s.recast d f).isFinished = s.isFinished := by
  have ended : (s.recast d f).writer.isEnded = s.writer.isEnded := s.writer.isEnded_recast d f
  simp only [isFinished, ended]
  rfl

theorem next_recast : (s.recast d f).next limit = (s.next (limit - d)).map (recast d f) := by
  have step := s.step_recast d f
  cases hs : s.step with
  | some s' => simp only [next, step, hs, Option.map_some]
  | none =>
      have late : limit ≤ (s.recast d f).now ↔ limit - d ≤ s.now := by
        change limit ≤ s.now + d ↔ _
        omega
      simp only [next, step, hs, Option.map_none, isFinished_recast, unsettled_recast,
        Bool.or_eq_true, decide_eq_true_eq, late]
      by_cases done : s.isFinished = true ∨ limit - d ≤ s.now
      · simp only [if_pos done, Option.map_none]
      · have short : d ≤ limit := by omega
        simp only [if_neg done, settle_recast, advance_recast s d f short]
        split <;> rfl

theorem rank_recast : (s.recast d f).rank limit = s.rank (limit - d) := by
  have time : limit - (s.now + d) = limit - d - s.now := by omega
  have inbound : inboundRank (s.inbound.delayed d) = inboundRank s.inbound := by
    simp [inboundRank, Inbound.size, Inbound.delayed]
  have writing : writingRank (s.writer.recast d f).phase (s.now + d) =
      writingRank s.writer.phase s.now := by
    cases phase : s.writer.phase <;> simp [writingRank, WriteLoop.recast, phase]
  have peer : peerRank (s.peer.delayed d) (s.now + d) = peerRank s.peer s.now := by
    cases phase : s.peer.phase <;> simp [peerRank, Peer.delayed, phase]
  simp only [rank, recast, time, inbound, writing, peer]
  rfl

theorem runFor_recast (n : Nat) :
    (s.recast d f).runFor limit n = (s.runFor (limit - d) n).recast d f := by
  induction n generalizing s with
  | zero => rfl
  | succ n ih =>
      simp only [runFor, next_recast]
      cases s.next (limit - d) with
      | none => rfl
      | some s' => exact ih s'

/-- A session at another time and under another number runs as the session itself. -/
theorem run_recast : (s.recast d f).run limit = (s.run (limit - d)).recast d f := by
  rw [run, rank_recast, runFor_recast, run]

/-- The report differs in the number alone. -/
theorem report_recast :
    (s.recast d f).report? = s.report?.map fun r => { r with attempt := f r.attempt } := by
  have reading : (s.recast d f).reading = s.reading := rfl
  have ended : (s.recast d f).writer.isEnded = s.writer.isEnded := s.writer.isEnded_recast d f
  have elapsed := s.elapsed_recast d f
  cases hr : s.reading with
  | ended t =>
      cases he : s.writer.isEnded with
      | true =>
          simp only [report?, reading, hr, ended, he, elapsed, if_true, Option.map_some]
          rfl
      | false => simp only [report?, reading, hr, ended, he, Bool.false_eq_true, if_false,
          Option.map_none]
  | receiving => simp only [report?, reading, hr, Option.map_none]
  | queueing a => simp only [report?, reading, hr, Option.map_none]

theorem endEvents_recast : (s.recast d f).endEvents = s.endEvents.map (Event.recast f) := by
  simp only [endEvents, report_recast]
  cases s.report? <;> rfl

end Runs

section Limit

variable {s : Session} {limit longer : Nat}

/-- A session that ends before the limit of the clock ends the same when the limit is further
away. -/
theorem run_longer (further : limit ≤ longer) (poll : 1 ≤ s.writer.poll)
    (finished : (s.run limit).isFinished = true) : s.run longer = s.run limit := by
  revert finished
  apply run_induction limit ?_ ?_ poll
  · intro s halted finished
    rw [run_of_over halted] at finished ⊢
    obtain ⟨quiet, _⟩ := over_of_next_eq_none halted
    exact run_of_over (next_eq_none quiet (Or.inl finished))
  · intro s s' poll next ih finished
    rw [run_of_next poll next] at finished ⊢
    have same : s.next longer = some s' := by
      rcases next_cases next with move | ⟨quiet, running, early, due, rfl⟩ |
        ⟨quiet, running, early, idle, rfl⟩
      · simp only [Session.next, move]
      · exact next_settle quiet running (by omega) due
      · have ticks : s.nextTick limit = min limit (s.nextTick longer) := by
          apply eq_of_forall_le_iff
          intro c
          rw [Nat.le_min, nextTick, nextTick, le_foldl_min_iff, le_foldl_min_iff]
          exact ⟨fun h => ⟨h.1, Nat.le_trans h.1 further, h.2⟩, fun h => ⟨h.1, h.2.2⟩⟩
        by_cases timer : s.nextTick longer ≤ limit
        · rw [next_advance quiet running (by omega) idle]
          simp only [advance, ticks, Nat.min_eq_right timer]
        · -- nothing is due before the limit, so the loops still wait there
          have tick : (s.advance limit).now = limit := by
            simp only [advance]
            omega
          have later : ∀ timer ∈ s.timers, (s.advance limit).now < timer := by
            intro t mem
            have := (nextTick_le longer s).2 t mem
            omega
          have quiet' : (s.advance limit).Quiet := quiet.later later rfl rfl rfl rfl
          have halted := next_eq_none quiet' (Or.inr (Nat.le_of_eq tick.symm))
          rw [run_of_over halted] at finished
          exact absurd finished (Bool.eq_false_iff.mp running)
    rw [run_of_next poll same]
    exact ih finished

/-- The session as if the surroundings had already had their turn. -/
def presettled (s : Session) : Session :=
  { s with settled := true }

theorem readStep_presettled (s : Session) : s.presettled.readStep = s.readStep.map presettled :=
  readStep_onAside s fun o => { o with settled := true }

theorem writeStep_presettled (s : Session) :
    s.presettled.writeStep = s.writeStep.map presettled :=
  writeStep_map presettled rfl rfl fun _ _ _ => rfl

theorem quiet_presettled (quiet : s.Quiet) (turn : Turn) :
    ({ s.presettled with turn := turn } : Session).Quiet := by
  constructor
  · have read := readStep_onAside s fun o => { o with settled := true, turn := turn }
    rwa [quiet.1, Option.map_none] at read
  · have waits := quiet.2
    cases hw : s.writer.step s.now with
    | none => simp only [writeStep, presettled, hw]
    | some r => simp [writeStep, hw] at waits

/-- Where both loops wait and no request is planned, the turn of the surroundings comes again, or
there is nothing to do in it. -/
theorem run_presettled_of_quiet (quiet : s.Quiet) (running : s.isFinished = false)
    (early : s.now < limit) (poll : 1 ≤ s.writer.poll) (uncancelled : s.cancelAt = none)
    (unshut : s.shutdownAt = none) : s.presettled.run limit = s.settle.run limit := by
  have quiet' : s.presettled.Quiet := quiet_presettled quiet s.turn
  cases can : s.peer.canAct s.now s.writer.outbound with
  | true =>
      have next : s.presettled.next limit = some s.settle := next_settle quiet' running early can
      exact run_of_next (s := s.presettled) poll next
  | false =>
      have later : ∀ due, s.peer.due? = some due → s.now < due :=
        fun _ planned => Peer.lt_of_due planned can
      have settle : s.settle = { s.presettled with turn := .reader } := by
        simp only [Session.settle, presettled, (peer_waits can later).2, uncancelled, unshut,
          isDue, stillPlanned, Bool.or_false, Bool.false_eq_true, if_false]
      have next : s.presettled.next limit = some (s.presettled.advance limit) :=
        next_advance quiet' running early can
      have next' : s.settle.next limit = some (s.presettled.advance limit) := by
        rw [settle]
        exact next_advance (quiet_presettled quiet .reader) running early can
      rw [run_of_next (s := s.presettled) poll next, run_of_next (s := s.settle) poll next']

/-- Where no request is planned it does not matter whether the surroundings have had their turn at
the tick at which a session begins. -/
theorem run_presettled (limit : Nat) (poll : 1 ≤ s.writer.poll) (fresh : s.settled = false)
    (uncancelled : s.cancelAt = none) (unshut : s.shutdownAt = none) :
    ∃ turn settled, s.presettled.run limit =
      { s.run limit with turn := turn, settled := settled } := by
  revert fresh uncancelled unshut
  apply run_induction limit ?_ ?_ poll
  · intro s halted fresh _ _
    obtain ⟨quiet, done⟩ := over_of_next_eq_none halted
    have quiet' : s.presettled.Quiet := quiet_presettled quiet s.turn
    rw [run_of_over halted, run_of_over (next_eq_none quiet' done)]
    exact ⟨s.turn, true, rfl⟩
  · intro s s' poll next ih fresh uncancelled unshut
    rw [run_of_next poll next]
    rcases next_cases next with move | ⟨quiet, running, early, due, rfl⟩ | ⟨_, _, _, idle, rfl⟩
    · have step := step_map presettled (fun _ _ => rfl) (readStep_presettled s)
        (writeStep_presettled s)
      rw [move, Option.map_some] at step
      have next' : s.presettled.next limit = some s'.presettled := by
        simp only [Session.next, step]
      rw [run_of_next (s := s.presettled) poll next']
      have instant := instant_of_step move
      exact ih (instant.settled.trans fresh) (instant.cancelAt.trans uncancelled)
        (instant.shutdownAt.trans unshut)
    · rw [run_presettled_of_quiet quiet running early poll uncancelled unshut]
      exact ⟨_, _, rfl⟩
    · simp [unsettled, fresh] at idle

end Limit

end Session

end DuplexStream
