import DuplexStream.Proofs.Session.Accounting
import DuplexStream.Proofs.Session.Arrivals
import DuplexStream.Proofs.Session.Recast

/-!
# A peer that hangs up

A session that nobody asks to stop, and that has no trigger, ends as its script does, whatever its
peer does with the acknowledgements (`Session.Following`). Only a full outbound queue can keep its
read loop waiting. Once the peer has hung up no queue stays full: the write loop ends at its next
acknowledgement and lets go of its own queue, and the read loop goes on without acknowledging. A
session whose peer hangs up at last therefore ends (`Session.Within.run`).
-/

namespace DuplexStream

open ScriptStep

/-- What a report says of a script that was heard to its end. -/
structure Report.Concludes (stream : StreamScript) (r : Report) : Prop where
  ending : ∃ t, stream.finish.ending? = some t ∧ r.outcome = t.outcome false ∧ r.detail = t.detail?
  messages : r.messageCount = (ids stream.steps).length

/-- The report of a session without acknowledgements on a script that ends it in this way. -/
def Report.ofScript (attempt : Nat) (stream : StreamScript) (t : Ending) : Report where
  attempt := attempt
  outcome := t.outcome false
  messageCount := (ids stream.steps).length
  acksSent := 0
  drops := 0
  duplicates := 0
  elapsed := total stream.steps
  detail := t.detail?

/-- A report says of the script what another one says, and has the verdicts of a tally. -/
structure Report.Retells (r q : Report) (tally : Tally) : Prop where
  outcome : r.outcome = q.outcome
  detail : r.detail = q.detail
  messageCount : r.messageCount = q.messageCount
  drops : r.drops = tally.dropped
  duplicates : r.duplicates = tally.duplicates

namespace Session

variable {stream : StreamScript} {limit N : Nat} {s s' : Session} {r : Report}

section Following

/-- A session without a trigger: if nobody asks it to stop, its read loop ends as the script does,
when the script is over. The queue of a write loop that has ended is closed. -/
structure Following (stream : StreamScript) (s : Session) : Prop extends Attended s where
  unarmed : s.trigger.delay = none
  finish : (∀ t, s.reading ≠ .ended t) → s.inbound.finish = stream.finish
  scripted : s.stop? = none → ∀ t, s.reading = .ended t →
    stream.finish.ending? = some t ∧ s.inbound.steps = []
  room : 1 ≤ s.writer.queue.capacity
  closed : s.writer.phase = .ended → s.writer.queue.listening = false
  asleep : ∀ a, s.reading = .queueing a → s.inbound.wake = none
  layered : ∀ a, s.reading = .queueing a → s.layer ≠ none

theorem afterMessage_of_unarmed (unarmed : s.trigger.delay = none) :
    s.afterMessage = { s with reading := .receiving } := by
  rcases s.afterMessage_cases with ⟨fires, _⟩ | ⟨_, he⟩
  · simp [Trigger.fires, unarmed] at fires
  · exact he

theorem following_of_receiving (attended : Attended s) (receiving : s.reading = .receiving)
    (unarmed : s.trigger.delay = none) (finish : s.inbound.finish = stream.finish)
    (room : 1 ≤ s.writer.queue.capacity)
    (closed : s.writer.phase = .ended → s.writer.queue.listening = false) :
    Following stream s where
  toAttended := attended
  unarmed := unarmed
  finish := fun _ => finish
  scripted := by simp [receiving]
  room := room
  closed := closed
  asleep := by simp [receiving]
  layered := by simp [receiving]

/-- A session at the end of a message. -/
theorem following_afterMessage (attended : Attended s.afterMessage)
    (unarmed : s.trigger.delay = none) (finish : s.inbound.finish = stream.finish)
    (room : 1 ≤ s.writer.queue.capacity)
    (closed : s.writer.phase = .ended → s.writer.queue.listening = false) :
    Following stream s.afterMessage := by
  rw [afterMessage_of_unarmed unarmed] at attended ⊢
  exact following_of_receiving attended rfl unarmed finish room closed

theorem Following.reads (h : Following stream s) (move : Reads s s') : Following stream s' := by
  have attended := h.toAttended.reads move
  have finish := h.finish move.live
  have polls := Inbound.polls_poll s.inbound s.now
  cases move with
  | @stopped t live stop =>
      have asked : (s.endReading t).stop? = some t := stop
      exact ⟨attended, h.unarmed, fun live' => absurd rfl (live' t), by simp [asked], h.room,
        h.closed, nofun, nofun⟩
  | closed receiving calm arrival =>
      rw [arrival] at polls
      cases polls with
      | closed steps closed =>
          refine ⟨attended, h.unarmed, fun live => absurd rfl (live .remoteClosed), ?_, h.room,
            h.closed, nofun, nofun⟩
          rintro _ t ended
          obtain rfl : Ending.remoteClosed = t := Reading.ended.inj ended
          rw [← finish, closed]
          exact ⟨rfl, steps⟩
  | @failed st rest receiving calm arrival =>
      rw [arrival] at polls
      cases polls with
      | failed steps failed =>
          refine ⟨attended, h.unarmed, fun live => absurd rfl (live (.status st)), ?_, h.room,
            h.closed, nofun, nofun⟩
          rintro _ t ended
          obtain rfl : Ending.status st = t := Reading.ended.inj ended
          rw [← finish, failed]
          exact ⟨rfl, rfl⟩
  | moved receiving calm arrival =>
      rw [arrival] at polls
      cases polls with
      | started => exact following_of_receiving attended receiving h.unarmed finish h.room h.closed
      | woke => exact following_of_receiving attended receiving h.unarmed finish h.room h.closed
  | ignored receiving calm arrival =>
      rw [arrival] at polls
      cases polls with
      | item => exact following_of_receiving attended receiving h.unarmed finish h.room h.closed
  | data receiving calm arrival verdict =>
      rw [arrival] at polls
      cases polls with
      | item =>
          cases verdict with
          | plain => exact following_afterMessage attended h.unarmed finish h.room h.closed
          | passed => exact following_afterMessage attended h.unarmed finish h.room h.closed
          | unwanted => exact following_afterMessage attended h.unarmed finish h.room h.closed
          | queueing =>
              exact ⟨attended, h.unarmed, fun _ => finish, nofun, h.room, h.closed,
                fun _ _ => rfl, fun _ _ => nofun⟩
  | queued => exact following_afterMessage attended h.unarmed finish h.room h.closed
  | refused => exact following_afterMessage attended h.unarmed finish h.room h.closed

theorem Following.writes (h : Following stream s) {w : WriteLoop} {events : List Event}
    (move : WriteLoop.Step s.writer s.now w events) :
    Following stream ({ s with writer := w }.note events) := by
  have room : w.queue.capacity = s.writer.queue.capacity := by cases move <;> rfl
  have closed : w.phase = .ended → w.queue.listening = false := by
    intro ended
    by_contra listening
    cases move <;> simp_all [WriteLoop.finish, WriteLoop.repoll, Queue.hangUp]
  exact ⟨h.toAttended.writes move, h.unarmed, h.finish, h.scripted, room ▸ h.room, closed, h.asleep,
    h.layered⟩

theorem Following.move (h : Following stream s) (move : Move s s') : Following stream s' := by
  have attended := h.toAttended.move move
  cases move with
  | read move => exact h.reads (reads_of_readStep move)
  | write move =>
      obtain ⟨w, events, hw, rfl⟩ := writeStep_eq_some move
      exact h.writes hw
  | cancel =>
      exact ⟨attended, h.unarmed, h.finish, nofun, h.room, h.closed, h.asleep, h.layered⟩
  | shutDown =>
      refine ⟨attended, h.unarmed, h.finish, fun calm => ?_, h.room, h.closed, h.asleep, h.layered⟩
      simp [stop_eq_none_iff] at calm
  | take =>
      exact ⟨attended, h.unarmed, h.finish, h.scripted, h.room, h.closed, h.asleep, h.layered⟩
  | hangUp =>
      exact ⟨attended, h.unarmed, h.finish, h.scripted, h.room, h.closed, h.asleep, h.layered⟩
  | pass =>
      exact ⟨attended, h.unarmed, h.finish, h.scripted, h.room, h.closed, h.asleep, h.layered⟩
  | plan =>
      exact ⟨attended, h.unarmed, h.finish, h.scripted, h.room, h.closed, h.asleep, h.layered⟩

theorem Following.reaches (h : Following stream s) (hr : Reaches s s') : Following stream s' :=
  hr.keeps (fun _ _ => Following.move) h

/-- Where nobody has asked the session to stop, its report is that of the script. -/
theorem Following.concludes (h : Following stream s) {l₀ : Option (Layer Seeded)}
    (ordered : InOrder l₀ (ids stream.steps) 0 s) (calm : s.stop? = none)
    (report : s.report? = some r) :
    r.Concludes stream ∧ s.layer = layerAfter l₀ (ids stream.steps) := by
  obtain ⟨t, ended, _, rfl⟩ := report_eq_some report
  obtain ⟨ending, steps⟩ := h.scripted calm t ended
  have delivered : s.delivered = ids stream.steps := by
    simpa [steps] using ordered.played
  have unasked : s.cancel.requested = false := h.flag.trans (stop_eq_none_iff.mp calm).1
  refine ⟨⟨⟨t, ending, ?_, rfl⟩, ?_⟩, ?_⟩
  · simp [outcome, unasked]
  · exact ordered.count.trans (congrArg List.length delivered)
  · rw [ordered.layer, delivered]

/-- Reports on the same script say the same of it, and of the verdicts what the layer comes to on
all its messages. -/
theorem Following.retells (h : Following stream s) {layer : Layer Seeded}
    (ordered : InOrder (some layer) (ids stream.steps) 0 s) (calm : s.stop? = none)
    (report : s.report? = some r) {q : Report} (other : q.Concludes stream) :
    r.Retells q (layer.deliverAll (ids stream.steps)).2.tally := by
  obtain ⟨⟨⟨t, ending, outcome, detail⟩, messages⟩, last⟩ := h.concludes ordered calm report
  obtain ⟨⟨t', ending', outcome', detail'⟩, messages'⟩ := other
  obtain rfl : t = t' := Option.some.inj (ending.symm.trans ending')
  have tally : s.tally = (layer.deliverAll (ids stream.steps)).2.tally := by
    rw [Session.tally, last]
    rfl
  obtain ⟨_, _, _, rfl⟩ := report_eq_some report
  exact ⟨outcome.trans outcome'.symm, detail.trans detail'.symm, messages.trans messages'.symm,
    congrArg Tally.dropped tally, congrArg Tally.duplicates tally⟩

end Following

section Time

/-- The tick at which the script is over if nothing keeps the read loop waiting. -/
def endTick (s : Session) : Nat :=
  match s.inbound.steps, s.inbound.wake with
  | .wait _ :: rest, some wake => max s.now wake + total rest
  | steps, _ => s.now + total steps

theorem now_le_endTick (s : Session) : s.now ≤ s.endTick := by
  rw [endTick]
  split <;> omega

theorem endTick_of_over (steps : s.inbound.steps = []) : s.endTick = s.now := by
  simp [endTick, steps, total]

/-- A read loop that is not waiting has all the rest of the script before it. -/
theorem endTick_of_awake (awake : s.inbound.wake = none) :
    s.endTick = s.now + total s.inbound.steps := by
  simp [endTick, awake]

/-- What a move of the read loop leaves as it is when there is no trigger. -/
structure Steady (s s' : Session) : Prop where
  now : s'.now = s.now
  stop : s'.stop? = s.stop?
  plain : s.layer = none → s'.layer = none
  endTick : s'.endTick = s.endTick
  total : total s'.inbound.steps ≤ total s.inbound.steps

theorem Steady.trans {s'' : Session} (h : Steady s s') (h' : Steady s' s'') : Steady s s'' :=
  ⟨h'.now.trans h.now, h'.stop.trans h.stop, fun plain => h'.plain (h.plain plain),
    h'.endTick.trans h.endTick, Nat.le_trans h'.total h.total⟩

theorem steady_of_same (now : s'.now = s.now) (stop : s'.stop? = s.stop?)
    (layer : s.layer = none → s'.layer = none) (inbound : s'.inbound = s.inbound) :
    Steady s s' where
  now := now
  stop := stop
  plain := layer
  endTick := by simp only [Session.endTick, inbound, now]
  total := Nat.le_of_eq (by rw [inbound])

/-- A message takes no time. -/
theorem steady_of_item {e : Envelope} {rest : List ScriptStep} (now : s'.now = s.now)
    (stop : s'.stop? = s.stop?) (layer : s.layer = none → s'.layer = none)
    (steps : s.inbound.steps = .send e :: rest)
    (inbound : s'.inbound = ⟨rest, s.inbound.finish, none⟩) : Steady s s' where
  now := now
  stop := stop
  plain := layer
  endTick := by
    rw [endTick_of_awake (congrArg Inbound.wake inbound), inbound, now]
    simp [Session.endTick, steps, ScriptStep.total, span]
  total := by
    rw [inbound]
    simp [steps, ScriptStep.total, span]

theorem steady_afterMessage {a : Session} (unarmed : a.trigger.delay = none) (h : Steady s a) :
    Steady s a.afterMessage := by
  rw [afterMessage_of_unarmed unarmed]
  exact ⟨h.now, h.stop, h.plain, h.endTick, h.total⟩

theorem steady_acknowledges {a : Session} {id : UInt64} (unarmed : a.trigger.delay = none)
    (verdict : Acknowledges a id s') (h : Steady s a) : Steady s s' := by
  have judged {l : Layer Seeded} (layer : a.layer = some l) {b : Session} (now : b.now = a.now)
      (stop : b.stop? = a.stop?) (inbound : b.inbound = a.inbound) : Steady s b :=
    h.trans (steady_of_same now stop (by simp [layer]) inbound)
  cases verdict with
  | plain => exact steady_afterMessage unarmed h
  | passed layer =>
      apply steady_afterMessage
      · exact unarmed
      · exact judged layer rfl rfl rfl
  | queueing layer => exact judged layer rfl rfl rfl
  | unwanted layer =>
      apply steady_afterMessage
      · exact unarmed
      · exact judged layer rfl rfl rfl

/-- Without a trigger the read loop keeps to the time of the script. -/
theorem Reads.steady (unarmed : s.trigger.delay = none) (move : Reads s s') : Steady s s' := by
  have polls := Inbound.polls_poll s.inbound s.now
  cases move with
  | stopped => exact steady_of_same rfl rfl id rfl
  | closed => exact steady_of_same rfl rfl id rfl
  | failed receiving calm arrival =>
      rw [arrival] at polls
      cases polls with
      | failed steps =>
          refine ⟨rfl, rfl, id, ?_, ?_⟩
          · rw [endTick_of_over steps, endTick_of_over rfl]
            rfl
          · simp [endReading, steps]
  | moved receiving calm arrival =>
      rw [arrival] at polls
      cases polls with
      | started steps wake =>
          refine ⟨rfl, rfl, id, ?_, Nat.le_refl _⟩
          rw [endTick_of_awake wake]
          simp only [endTick, steps, ScriptStep.total, List.map_cons, List.sum_cons, span]
          omega
      | woke steps wake due =>
          refine ⟨rfl, rfl, id, ?_, ?_⟩
          · rw [endTick_of_awake rfl]
            simp only [endTick, steps, wake]
            omega
          · simp only [steps, ScriptStep.total, List.map_cons, List.sum_cons]
            omega
  | ignored receiving calm arrival =>
      rw [arrival] at polls
      cases polls with
      | item steps => exact steady_of_item rfl rfl id steps rfl
  | data receiving calm arrival verdict =>
      rw [arrival] at polls
      cases polls with
      | item steps =>
          refine steady_acknowledges ?_ verdict ?_
          · exact unarmed
          · exact steady_of_item rfl rfl id steps rfl
  | queued =>
      apply steady_afterMessage
      · exact unarmed
      · exact steady_of_same rfl rfl id rfl
  | refused =>
      apply steady_afterMessage
      · exact unarmed
      · exact steady_of_same rfl rfl id rfl

/-- The clock may go on while the session waits; the end of the script does not come any nearer. -/
theorem endTick_le_of_later (inbound : s'.inbound = s.inbound) (later : s.now ≤ s'.now) :
    s.endTick ≤ s'.endTick := by
  simp only [endTick, inbound]
  split <;> omega

end Time

section HungUp

/-- Once the peer has hung up, nothing is written any more. -/
theorem written_of_hungUp (gone : s.writer.outbound.listening = false) (hr : Reaches s s') :
    s'.written = s.written := by
  suffices s'.written = s.written ∧ s'.writer.outbound.listening = false from this.1
  refine hr.keeps (P := fun a => a.written = s.written ∧ a.writer.outbound.listening = false)
    (fun a b h move => ?_) ⟨rfl, gone⟩
  obtain ⟨written, gone⟩ := h
  cases move with
  | read move =>
      have aside := aside_of_readStep move
      have same : b.written = a.written := congrArg Aside.written aside
      have outbound : b.writer.outbound = a.writer.outbound := congrArg Aside.outbound aside
      exact ⟨same.trans written, outbound ▸ gone⟩
  | write move =>
      obtain ⟨w, events, hw, rfl⟩ := writeStep_eq_some move
      cases hw with
      | sent sending listening => simp [gone] at listening
      | took => exact ⟨written, gone⟩
      | drained => exact ⟨written, gone⟩
      | gaveUp => exact ⟨written, gone⟩
      | repolled => exact ⟨written, gone⟩
      | refused => exact ⟨written, gone⟩
      | abandoned => exact ⟨written, gone⟩
  | take n => exact ⟨written, gone⟩
  | hangUp => exact ⟨written, rfl⟩
  | cancel => exact ⟨written, gone⟩
  | shutDown => exact ⟨written, gone⟩
  | pass => exact ⟨written, gone⟩
  | plan => exact ⟨written, gone⟩

end HungUp

section Within

/-- Nothing but the stream can keep the read loop waiting: it has nothing to acknowledge, or nobody
listens to the acknowledgements any more. -/
def Unhindered (s : Session) : Prop :=
  s.layer = none ∨ s.writer.outbound.listening = false

/-- The peer hangs up soon enough for the rest of the script. -/
def HangsUpBy (N : Nat) (s : Session) : Prop :=
  ∃ tick, s.peer.phase = .leaving tick ∧ s.now ≤ tick ∧ tick + total s.inbound.steps ≤ N

/-- A session that nobody asks to stop: it ends between two ticks, if its peer does what it must. -/
structure Within (stream : StreamScript) (M N : Nat) (s : Session) : Prop
    extends Following stream s where
  calm : s.stop? = none
  uncancelled : s.cancelAt = none
  unshut : s.shutdownAt = none
  notBefore : M ≤ s.endTick
  notAfter : s.endTick ≤ N
  free : s.Unhindered ∨ s.HangsUpBy N

variable {M : Nat}

theorem Unhindered.congr (h : s.Unhindered) (layer : s.layer = none → s'.layer = none)
    (listening : s'.writer.outbound.listening = s.writer.outbound.listening) : s'.Unhindered :=
  h.imp layer listening.trans

theorem listening_of_writes {w w' : WriteLoop} {now : Nat} {events : List Event}
    (move : WriteLoop.Step w now w' events) :
    w'.outbound.listening = w.outbound.listening := by
  cases move <;> rfl

/-- Where both loops wait, the read loop waits for the end of a wait of the script, or for room. -/
theorem Following.waits (h : Following stream s) (finite : stream.finish ≠ .hold) (quiet : s.Quiet)
    (running : s.isFinished = false) :
    (∃ d rest tick, s.reading = .receiving ∧ s.inbound.steps = .wait d :: rest ∧
      s.inbound.wake = some tick ∧ s.now < tick) ∨ (s.inbound.wake = none ∧ ¬ s.Unhindered) := by
  cases readWaits_of_readStep quiet.1 with
  | ended ended => simp [h.finished_of_quiet quiet ended] at running
  | receiving receiving calm arrival =>
      have polls := Inbound.polls_poll s.inbound s.now
      rw [arrival] at polls
      cases polls with
      | waiting steps wake early => exact Or.inl ⟨_, _, _, receiving, steps, wake, early⟩
      | held steps finish =>
          have live : ∀ t, s.reading ≠ .ended t := by simp [receiving]
          exact absurd ((h.finish live).symm.trans finish) finite
  | queueing queueing calm listening full =>
      refine Or.inr ⟨h.asleep _ queueing, ?_⟩
      -- only a write loop that waits for room itself leaves its queue full
      have room := h.room
      cases writeStep_eq_none quiet.2 with
      | ended phase => simp [h.closed phase] at listening
      | idle polling empty =>
          rw [empty, List.length_nil] at full
          omega
      | blocked sending heard =>
          rintro (plain | gone)
          · exact h.layered _ queueing plain
          · simp [gone] at heard

theorem Within.reads (h : Within stream M N s) (move : s.readStep = some s') :
    Within stream M N s' := by
  have aside := aside_of_readStep move
  have moves := reads_of_readStep move
  have steady := moves.steady h.unarmed
  have peer : s'.peer = s.peer := congrArg Aside.peer aside
  have outbound : s'.writer.outbound = s.writer.outbound := congrArg Aside.outbound aside
  refine ⟨h.toFollowing.reads moves, steady.stop.trans h.calm,
    (congrArg Aside.cancelAt aside).trans h.uncancelled,
    (congrArg Aside.shutdownAt aside).trans h.unshut, steady.endTick ▸ h.notBefore,
    steady.endTick ▸ h.notAfter, ?_⟩
  rcases h.free with free | ⟨tick, leaving, early, enough⟩
  · exact Or.inl (free.congr steady.plain (congrArg Queue.listening outbound))
  · have := steady.total
    exact Or.inr ⟨tick, peer ▸ leaving, steady.now ▸ early, by omega⟩

theorem Within.settle (h : Within stream M N s) : Within stream M N s.settle := by
  refine ⟨h.toFollowing.reaches (reaches_settle s), ?_, ?_, ?_, h.notBefore, h.notAfter, ?_⟩
  · simpa [Session.settle, stop?, isDue, h.uncancelled, h.unshut] using h.calm
  · simp [Session.settle, stillPlanned, isDue, h.uncancelled]
  · simp [Session.settle, stillPlanned, isDue, h.unshut]
  · rcases h.free with free | ⟨tick, leaving, early, enough⟩
    · refine Or.inl (free.imp id fun gone => ?_)
      rcases Peer.act_cases s.peer s.now s.writer.outbound with ⟨n, rest, phase, he⟩ | ⟨phase, he⟩
      · simpa [Session.settle, he] using gone
      · simp [Session.settle, he, Queue.hangUp]
    · by_cases due : tick ≤ s.now
      · exact Or.inl (Or.inr (by simp [Session.settle, Peer.act, leaving, due, Queue.hangUp]))
      · exact Or.inr ⟨tick, by simp [Session.settle, Peer.act, leaving, due], early, enough⟩

/-- The clock moves on to the end of a wait of the script, or to the hang-up. -/
theorem Within.advance (h : Within stream M N s) (finite : stream.finish ≠ .hold)
    (quiet : s.Quiet) (running : s.isFinished = false) (idle : s.unsettled = false) (limit : Nat) :
    Within stream M N (s.advance limit) := by
  have later : s.now ≤ (s.advance limit).now := by
    simp only [Session.advance]
    omega
  have inbound : (s.advance limit).inbound = s.inbound := rfl
  have notBefore := Nat.le_trans h.notBefore (endTick_le_of_later inbound later)
  have kept := h.toFollowing.reaches (reaches_advance s limit)
  have leaving {tick : Nat} (leaving : s.peer.phase = .leaving tick) (early : s.now ≤ tick) :
      (s.advance limit).now ≤ tick := by
    have canAct : s.peer.canAct s.now s.writer.outbound = false := by
      simp only [unsettled, Bool.or_eq_false_iff] at idle
      exact idle.2
    have notYet : s.now < tick := by simpa [Peer.canAct, leaving] using canAct
    have timer : tick ∈ s.timers := by simp [timers, Peer.due?, leaving]
    have := advance_now_le limit s timer
    omega
  rcases h.toFollowing.waits finite quiet running with
    ⟨d, rest, tick, receiving, steps, wake, early⟩ | ⟨awake, hindered⟩
  · have before := advance_now_le limit s (wake_mem_timers receiving wake)
    have same : (s.advance limit).endTick = s.endTick := by
      simp only [endTick, inbound, steps, wake]
      omega
    refine ⟨kept, h.calm, h.uncancelled, h.unshut, notBefore, same ▸ h.notAfter, ?_⟩
    rcases h.free with free | ⟨tick, phase, early, enough⟩
    · exact Or.inl free
    · exact Or.inr ⟨tick, phase, leaving phase early, enough⟩
  · -- the script stands still until the hang-up, and there is time for the rest of it after that
    obtain ⟨tick, phase, early, enough⟩ := h.free.resolve_left hindered
    have before := leaving phase early
    refine ⟨kept, h.calm, h.uncancelled, h.unshut, notBefore, ?_,
      Or.inr ⟨tick, phase, before, enough⟩⟩
    rw [endTick_of_awake (s := s.advance limit) awake]
    exact Nat.le_trans (Nat.add_le_add_right before _) enough

theorem Within.next (h : Within stream M N s) (finite : stream.finish ≠ .hold)
    (next : Next limit s s') : Within stream M N s' := by
  have kept := h.toFollowing.reaches (reaches_next next)
  cases next with
  | read turn move => exact { h.reads move with toFollowing := kept }
  | write turn move =>
      obtain ⟨w, events, hw, rfl⟩ := writeStep_eq_some move
      refine ⟨kept, h.calm, h.uncancelled, h.unshut, h.notBefore, h.notAfter, ?_⟩
      exact h.free.imp (·.congr id (listening_of_writes hw)) id
  | settle => exact h.settle
  | advance quiet running early idle => exact h.advance finite quiet running idle limit

/-- Whatever has come before, from a hang-up on the session goes on with its script. -/
theorem Following.within_hungUp (h : Following stream s) (calm : s.stop? = none)
    (uncancelled : s.cancelAt = none) (unshut : s.shutdownAt = none) :
    Within stream s.endTick s.endTick s.peerHangsUp where
  toFollowing := h.move (.hangUp s)
  calm := calm
  uncancelled := uncancelled
  unshut := unshut
  notBefore := Nat.le_refl _
  notAfter := Nat.le_refl _
  free := Or.inl (Or.inr rfl)

/-- A session that nobody asks to stop ends, and ends in time. -/
theorem Within.run (h : Within stream M N s) (finite : stream.finish ≠ .hold)
    (poll : 1 ≤ s.writer.poll) (later : N < limit) :
    Within stream M N (s.run limit) ∧ (s.run limit).isFinished = true ∧
      M ≤ (s.run limit).now ∧ (s.run limit).now ≤ N := by
  have last : Within stream M N (s.run limit) :=
    (unfolds_run limit s).keeps (fun _ _ h next => h.next finite next) h
  have before := Nat.le_trans (now_le_endTick (s.run limit)) last.notAfter
  obtain ⟨_, halted⟩ := over_of_next_eq_none (next_run limit poll)
  have finished : (s.run limit).isFinished = true := halted.resolve_right (by omega)
  obtain ⟨⟨t, ended⟩, _⟩ := (isFinished_iff _).mp finished
  have atEnd := endTick_of_over (last.scripted last.calm t ended).2
  exact ⟨last, finished, atEnd ▸ last.notBefore, before⟩

/-- The report does not depend on the limit of the clock, if that is far enough away. -/
theorem Within.reports (h : Within stream M N s) (finite : stream.finish ≠ .hold)
    (poll : 1 ≤ s.writer.poll) (opened : s.openedAt ≤ M) :
    ∃ r last, Reaches s last ∧ last.stop? = none ∧ last.report? = some r ∧
      M ≤ s.openedAt + r.elapsed ∧ s.openedAt + r.elapsed ≤ N ∧
      ∀ limit, N < limit → (s.run limit).report? = some r := by
  obtain ⟨last, finished, after, before⟩ := h.run finite poll (Nat.lt_add_one N)
  have reaches := (unfolds_run (N + 1) s).reaches
  obtain ⟨⟨t, ended⟩, phase⟩ := (isFinished_iff _).mp finished
  have report : ((s.run (N + 1)).report?).isSome := by
    simp [report?, ended, (isEnded_iff _).mpr phase]
  obtain ⟨r, report⟩ := Option.isSome_iff_exists.mp report
  have elapsed : r.elapsed = (s.run (N + 1)).now - s.openedAt := by
    obtain ⟨_, _, _, rfl⟩ := report_eq_some report
    rw [← reaches.continues.openedAt]
    rfl
  refine ⟨r, s.run (N + 1), reaches, last.calm, report, by omega, by omega, fun limit later => ?_⟩
  rw [run_longer later poll finished]
  exact report

/-- What a session with a layer reports that nobody asks to stop. -/
theorem Within.retold (h : Within stream M N s) (finite : stream.finish ≠ .hold)
    (poll : 1 ≤ s.writer.poll) (opened : s.openedAt ≤ M) {layer : Layer Seeded}
    (ordered : InOrder (some layer) (ids stream.steps) 0 s) {q : Report}
    (other : q.Concludes stream) :
    ∃ r : Report, r.Retells q (layer.deliverAll (ids stream.steps)).2.tally ∧
      (s.writer.outbound.listening = false → r.acksSent = s.written.length) ∧
      M ≤ s.openedAt + r.elapsed ∧ s.openedAt + r.elapsed ≤ N ∧
      ∀ limit, N < limit → (s.run limit).report? = some r := by
  obtain ⟨r, last, hr, calm, report, notBefore, notAfter, reports⟩ := h.reports finite poll opened
  have ordered' := ordered.reaches hr
  refine ⟨r, (h.toFollowing.reaches hr).retells ordered' calm report other, fun gone => ?_,
    notBefore, notAfter, reports⟩
  rw [← written_of_hungUp gone hr, ← ordered'.sent]
  obtain ⟨_, _, _, rfl⟩ := report_eq_some report
  rfl

end Within

section Start

variable (plan : SessionPlan) (attempt : Nat) (stream : StreamScript) (peer : PeerPlan)
  (entropy : Entropy) (opened : Moment) (g : Seeded)

/-- A session that nobody asks to stop, at the moment its stream opens. -/
def unasked : Session :=
  begun plan attempt stream { Surroundings.quiet with plan := peer, entropy := entropy } opened g
    false

theorem one_le_poll_unasked :
    1 ≤ (unasked plan attempt stream peer entropy opened g).writer.poll :=
  one_le_poll_begun plan attempt stream _ opened g false

theorem inOrder_unasked :
    InOrder (firstLayer plan.mode g) (ids stream.steps) 0
      (unasked plan attempt stream peer entropy opened g) :=
  inOrder_begun plan attempt stream _ opened g false 0

theorem following_unasked (untriggered : plan.cancelAfter = none)
    (room : 1 ≤ plan.channelBuffer) :
    Following stream (unasked plan attempt stream peer entropy opened g) :=
  following_of_receiving (attended_begun plan attempt stream _ opened g false) rfl untriggered rfl
    room (by simp [unasked, begun, start, drawingFrom, WriteLoop.start])

theorem within_unasked (untriggered : plan.cancelAfter = none) (room : 1 ≤ plan.channelBuffer)
    {N : Nat} (notAfter : opened.tick + total stream.steps ≤ N)
    (free : (unasked plan attempt stream peer entropy opened g).Unhindered ∨
      (unasked plan attempt stream peer entropy opened g).HangsUpBy N) :
    Within stream (opened.tick + total stream.steps) N
      (unasked plan attempt stream peer entropy opened g) := by
  have ends : (unasked plan attempt stream peer entropy opened g).endTick =
      opened.tick + total stream.steps := endTick_of_awake rfl
  exact ⟨following_unasked plan attempt stream peer entropy opened g untriggered room, rfl,
    rfl, rfl, Nat.le_of_eq ends.symm, ends ▸ notAfter, free⟩

/-- A session without acknowledgements ends with its script. -/
theorem reports_plain (plain : plan.mode = .plain) (untriggered : plan.cancelAfter = none)
    (room : 1 ≤ plan.channelBuffer) {t : Ending} (ending : stream.finish.ending? = some t)
    (later : opened.tick + total stream.steps < limit) :
    ((unasked plan attempt stream peer entropy opened g).run limit).report? =
      some (.ofScript attempt stream t) := by
  have finite : stream.finish ≠ .hold := by
    intro held
    simp [held, ScriptEnd.ending?] at ending
  have silent : (unasked plan attempt stream peer entropy opened g).layer = none := by
    simp [unasked, begun, start, drawingFrom, startLayer, plain]
  have following := following_unasked plan attempt stream peer entropy opened g untriggered room
  have ordered := inOrder_unasked plan attempt stream peer entropy opened g
  rw [plain] at ordered
  obtain ⟨r, last, hr, calm, report, notBefore, notAfter, reports⟩ :=
    (within_unasked plan attempt stream peer entropy opened g untriggered room (Nat.le_refl _)
      (Or.inl (Or.inl silent))).reports finite (one_le_poll_unasked _ _ _ _ _ _ _)
      (Nat.le_add_right _ _)
  rw [reports limit later]
  obtain ⟨⟨⟨t', ending', outcome, detail⟩, messages⟩, _⟩ :=
    (following.reaches hr).concludes (ordered.reaches hr) calm report
  obtain rfl : t = t' := Option.some.inj (ending.symm.trans ending')
  obtain ⟨acks, drops, duplicates⟩ := (ordered.reaches hr).counts_of_plain report
  have elapsed : r.elapsed = total stream.steps := by
    have openedAt :
        (unasked plan attempt stream peer entropy opened g).openedAt = opened.tick := rfl
    omega
  have number : r.attempt = attempt := by
    obtain ⟨_, _, _, rfl⟩ := report_eq_some report
    exact hr.continues.attempt
  apply congrArg some
  calc r = ⟨r.attempt, r.outcome, r.messageCount, r.acksSent, r.drops, r.duplicates, r.elapsed,
        r.detail⟩ := rfl
    _ = .ofScript attempt stream t := by
        rw [number, outcome, messages, acks, drops, duplicates, elapsed, detail]
        rfl

end Start

/-- Of a session that nobody asks to stop, and whose script ends, nothing is lost but
acknowledgements when its peer hangs up. Let the peer take any number of them and then hang up, in
any order of moves: whatever report there is, it says of the script what every session without
acknowledgements says, and has the layer's verdicts on all messages. From the hang-up on nothing is
written, and the session ends with such a report. So it does when the hang-up is planned for a time
after the opening. With a peer that is gone when the stream opens it ends with the script, and has
sent nothing. -/
theorem hang_up_harmless (plan : SessionPlan) (untriggered : plan.cancelAfter = none)
    (room : 1 ≤ plan.channelBuffer) (model : LossModel) (attempt : Nat) (stream : StreamScript)
    (finite : stream.finish ≠ .hold) (entropy : Entropy) (opened : Moment) (g : Seeded) :
    let first (mode : AckMode) (peer : PeerPlan) :=
      unasked { plan with mode := mode } attempt stream peer entropy opened g
    let tally := ((Layer.start model.dropProbability g).deliverAll (ids stream.steps)).2.tally
    ∃ q : Report,
      (∀ peer limit, opened.tick + total stream.steps < limit →
        ((first .plain peer).run limit).report? = some q) ∧
      (∀ peer s r, Reaches (first (.reliable model) peer) s → s.stop? = none →
        s.report? = some r → r.Retells q tally) ∧
      (∀ peer s, Reaches (first (.reliable model) peer) s → s.stop? = none →
        s.cancelAt = none → s.shutdownAt = none →
        (∀ s', Reaches s.peerHangsUp s' → s'.written = s.written) ∧
        ∃ n r, r.Retells q tally ∧ r.acksSent = s.written.length ∧
          ∀ limit, n < limit → (s.peerHangsUp.run limit).report? = some r) ∧
      (∀ d : Duration, ∃ r, r.Retells q tally ∧ r.elapsed ≤ d.ticks + q.elapsed ∧
        ∀ limit, opened.tick + d.ticks + total stream.steps < limit →
          ((first (.reliable model) (.leaveAfter d)).run limit).report? = some r) ∧
      ∃ r, r.Retells q tally ∧ r.acksSent = 0 ∧ r.elapsed = q.elapsed ∧
        ∀ limit, opened.tick + total stream.steps < limit →
          ((first (.reliable model) .leave).run limit).report? = some r := by
  intro first tally
  obtain ⟨t, ending⟩ : ∃ t, stream.finish.ending? = some t := by
    cases hf : stream.finish with
    | close => exact ⟨_, rfl⟩
    | fail st => exact ⟨_, rfl⟩
    | hold => exact absurd hf finite
  let reliable := { plan with mode := .reliable model }
  have following (peer : PeerPlan) : Following stream (first (.reliable model) peer) :=
    following_unasked reliable attempt stream peer entropy opened g untriggered room
  have ordered (peer : PeerPlan) : InOrder (some (.start model.dropProbability g))
      (ids stream.steps) 0 (first (.reliable model) peer) :=
    inOrder_unasked reliable attempt stream peer entropy opened g
  have poll (peer : PeerPlan) : 1 ≤ (first (.reliable model) peer).writer.poll :=
    one_le_poll_unasked reliable attempt stream peer entropy opened g
  have within (peer : PeerPlan) {N : Nat} (notAfter : opened.tick + total stream.steps ≤ N)
      (free : (first (.reliable model) peer).Unhindered ∨
        (first (.reliable model) peer).HangsUpBy N) :
      Within stream (opened.tick + total stream.steps) N (first (.reliable model) peer) :=
    within_unasked reliable attempt stream peer entropy opened g untriggered room notAfter free
  have other : (Report.ofScript attempt stream t).Concludes stream := ⟨⟨t, ending, rfl, rfl⟩, rfl⟩
  refine ⟨.ofScript attempt stream t, fun peer limit later => ?_, fun peer s r hr calm report => ?_,
    fun peer s hr calm uncancelled unshut => ?_, fun d => ?_, ?_⟩
  · exact reports_plain { plan with mode := .plain } attempt stream peer entropy opened g rfl
      untriggered room ending later
  · exact ((following peer).reaches hr).retells ((ordered peer).reaches hr) calm report other
  · have hangUp : Reaches (first (.reliable model) peer) s.peerHangsUp := hr.tail (.hangUp s)
    have within := ((following peer).reaches hr).within_hungUp calm uncancelled unshut
    have openedAt : s.openedAt ≤ s.endTick := by
      have continues := hr.continues
      have : (first (.reliable model) peer).openedAt = (first (.reliable model) peer).now := rfl
      have := now_le_endTick s
      have := continues.openedAt
      have := continues.now_le
      omega
    obtain ⟨r, retells, sent, _, _, reports⟩ := within.retold finite
      (hangUp.continues.poll ▸ poll peer) openedAt ((ordered peer).reaches hangUp) other
    exact ⟨fun s' hr' => written_of_hungUp (s := s.peerHangsUp) rfl hr', s.endTick, r, retells,
      sent rfl, reports⟩
  · obtain ⟨r, retells, _, _, notAfter, reports⟩ :=
      (within (.leaveAfter d) (Nat.add_le_add_right (Nat.le_add_right _ d.ticks) _)
        (Or.inr ⟨_, rfl, Nat.le_add_right _ _, Nat.le_refl _⟩)).retold finite (poll _)
        (Nat.le_add_right _ _) (ordered _) other
    refine ⟨r, retells, ?_, reports⟩
    change opened.tick + r.elapsed ≤ _ at notAfter
    change r.elapsed ≤ d.ticks + total stream.steps
    omega
  · obtain ⟨r, retells, sent, notBefore, notAfter, reports⟩ :=
      (within .leave (Nat.le_refl _) (Or.inl (Or.inr rfl))).retold finite (poll _)
        (Nat.le_add_right _ _) (ordered _) other
    refine ⟨r, retells, sent rfl, ?_, reports⟩
    exact Nat.le_antisymm (Nat.le_of_add_le_add_left notAfter)
      (Nat.le_of_add_le_add_left notBefore)

/-- Both loops are stalled on full queues at the tenth tick: one acknowledgement lies in front of
the peer, the next is in the hand of the write loop, one is queued, and the read loop is queueing
the last. Then the peer hangs up. -/
theorem hang_up_harmless_stalled :
    let model : LossModel := ⟨⟨0⟩, some 11⟩
    let plan (mode : AckMode) : SessionPlan := ⟨mode, none, .ofMillis 500, 1⟩
    let stream : StreamScript := ⟨[StreamScript.message 7 [], StreamScript.message 7 [],
      StreamScript.message 5 [], .wait (.ofMillis 3), StreamScript.message 9 [],
      StreamScript.message 2 []], .close⟩
    let first (mode : AckMode) (peer : PeerPlan) :=
      unasked (plan mode) 1 stream peer 0 .origin (.ofSeed 12)
    let stalled := (first (.reliable model) .ignore).run 10
    let tally : Tally := ⟨4, 0, 1⟩
    stream.finish ≠ .hold ∧ Reaches (first (.reliable model) .ignore) stalled ∧
      stalled.stop? = none ∧ stalled.reading = .queueing 2 ∧ stalled.writer.phase = .sending 5 ∧
      stalled.written = [7] ∧
      ∃ q, ((first .plain .ignore).run 10).report? = some q ∧
        (∀ s', Reaches stalled.peerHangsUp s' → s'.written = [7]) ∧
        (∃ n r, r.Retells q tally ∧ r.acksSent = 1 ∧
          ∀ limit, n < limit → (stalled.peerHangsUp.run limit).report? = some r) ∧
        (∃ r, ((first (.reliable model) (.leaveAfter (.ofMillis 20))).run 30).report? = some r ∧
          r.Retells q tally ∧ r.elapsed ≤ 20 + q.elapsed) ∧
        ∃ r, ((first (.reliable model) .leave).run 10).report? = some r ∧ r.Retells q tally ∧
          r.acksSent = 0 ∧ r.elapsed = q.elapsed := by
  intro model plan stream first stalled tally
  have reached : Reaches (first (.reliable model) .ignore) stalled := (unfolds_run 10 _).reaches
  have calm : stalled.stop? = none := by decide +kernel
  have written : stalled.written = [7] := by decide +kernel
  have counted : ((Layer.start model.dropProbability (Seeded.ofSeed 12)).deliverAll
      (ids stream.steps)).2.tally = tally := by decide +kernel
  obtain ⟨q, plain, _, hungUp, leaving, gone⟩ :=
    hang_up_harmless (plan .plain) rfl (by decide) model 1 stream nofun 0 .origin (.ofSeed 12)
  rw [counted] at hungUp leaving gone
  obtain ⟨silent, n, r, retells, sent, reports⟩ :=
    hungUp .ignore stalled reached calm (by decide +kernel) (by decide +kernel)
  rw [written] at silent sent
  obtain ⟨later, retellsLater, elapsed, reportLater⟩ := leaving (.ofMillis 20)
  obtain ⟨early, retellsEarly, noAcks, same, reportEarly⟩ := gone
  exact ⟨nofun, reached, calm, by decide +kernel, by decide +kernel, written, q,
    plain .ignore 10 (by decide), silent, ⟨n, r, retells, sent, reports⟩,
    ⟨later, reportLater 30 (by decide), retellsLater, elapsed⟩,
    early, reportEarly 10 (by decide), retellsEarly, noAcks, same⟩

end Session

end DuplexStream
