import DuplexStream.Proofs.Session.Clock
import DuplexStream.Proofs.Session.Promptness

/-!
# What a session will come to

`Outside.foresee` reads the rest of a script without loops, queues and turns: it says which messages
are still received, and how and when the read loop ends. When the peer reads nothing, the room for
acknowledgements is known, and every repetition of a run keeps what is foreseen of the session
(`Session.foretold_next`). A run therefore ends as foreseen at its start (`Session.run_foretold`).
-/

namespace DuplexStream

/-- What the reading of a script depends on: the first request that comes from outside, when the
trigger fires, how the stream ends, for how many acknowledgements there is room, and the limit of
the clock. -/
structure Outside where
  request : Option (Ending × Nat)
  fires : Nat → Bool
  finish : ScriptEnd
  room : Nat
  limit : Nat

/-- Messages in order, and how and when the read loop ends, if it does. -/
abbrev Foreseen := List UInt64 × Option (Ending × Nat)

/-- The number of acknowledgements that a layer, if there is one, has produced. -/
def ackedOf (layer : Option (Layer Seeded)) : Nat :=
  (layer.map fun l => l.tally.acked).getD 0

/-- A message takes the last room, and one more. -/
def stalls (room : Nat) (layer : Option (Layer Seeded)) (id : UInt64) : Bool :=
  match layer with
  | none => false
  | some l => decide ((l.deliver id).1 = .acknowledged) &&
      decide (room < (l.deliver id).2.tally.acked)

namespace Outside

/-- The end of a message: the trigger fires, or the reading goes on. -/
def goOn (o : Outside) (now : Nat) (rest : Foreseen) : Foreseen :=
  if o.fires now then ([], some (.localCancel, now)) else rest

/-- The messages that are still received from a tick on, and how and when the read loop ends. A wait
is cut short by a request before its end. A message without room is the last one. -/
def foresee (o : Outside) : List ScriptStep → Option Nat → Nat → Option (Layer Seeded) → Foreseen
  | [], _, now, _ =>
    match o.finish with
    | .close => ([], some (.remoteClosed, now))
    | .fail st => ([], some (.status st, now))
    | .hold => ([], o.request)
  | .wait d :: rest, wake, now, layer =>
    let tick := wake.getD (now + d.ticks)
    if o.request.any fun r => decide (r.2 < tick) then ([], o.request)
    else if o.limit < tick then ([], none)
    else o.foresee rest none tick layer
  | .send e :: rest, _, now, layer =>
    match e.data? with
    | none => o.foresee rest none now layer
    | some m =>
      if stalls o.room layer m.id then ([m.id], o.request)
      else
        let going := o.goOn now
          (o.foresee rest none now (layer.map fun l => (l.deliver m.id).2))
        (m.id :: going.1, going.2)

end Outside

namespace Session

/-- What the rest of a session depends on when its peer reads nothing. The room is that of the two
queues and of the acknowledgement between them. -/
def outside (limit : Nat) (s : Session) : Outside where
  request := s.request? limit
  fires := fun now => s.trigger.fires (.ofMillis (now - s.openedAt))
  finish := s.inbound.finish
  room := 2 * s.writer.queue.capacity + 1
  limit := limit

/-- What is foreseen of a read loop that is asked to stop or not. -/
def unlessStopped (s : Session) (going : Foreseen) : Foreseen :=
  match s.stop? with
  | some t => ([], some (t, s.now))
  | none => going

/-- What is foreseen when the read loop asks for its next item. -/
def ahead (limit : Nat) (s : Session) : Foreseen :=
  (s.outside limit).foresee s.inbound.steps s.inbound.wake s.now s.layer

/-- What is foreseen of a session. -/
def outlook (limit : Nat) (s : Session) : Foreseen :=
  match s.reading with
  | .ended t => ([], some (t, s.now))
  | .receiving => s.unlessStopped (s.ahead limit)
  | .queueing _ =>
    s.unlessStopped
      (if (s.outside limit).room < ackedOf s.layer then ([], s.request? limit)
      else (s.outside limit).goOn s.now (s.ahead limit))

/-- All messages of a session, those received so far and those foreseen, and its end. -/
def foretold (limit : Nat) (s : Session) : Foreseen :=
  (s.delivered ++ (s.outlook limit).1, (s.outlook limit).2)

variable {mode : AckMode} {g : Seeded} {script : List UInt64} {capacity limit : Nat}
  {s s' : Session}

/-- Everything that a forecast relies on. The trigger has fired only where there was room. -/
structure Predictable (mode : AckMode) (g : Seeded) (script : List UInt64) (capacity limit : Nat)
    (s : Session) : Prop
    extends Accounted (firstLayer mode g) script capacity s, Timely limit s where
  fired : s.trigger.fired = true →
    (∃ t, s.reading = .ended t) ∧ ackedOf s.layer ≤ 2 * capacity + 1

/-- What a forecast relies on at one point of a run: the clock, what the write loop knows, and that
the read loop waits with an acknowledgement only where there is no room for it. -/
structure Foreseeable (limit : Nat) (s : Session) : Prop extends Timely limit s where
  attended : Attended s
  fresh : s.unsettled = true → s.Fresh
  wanted : s.reading = .receiving → s.acksOpen = true
  listening : ∀ a, s.reading = .queueing a → s.writer.queue.listening = true
  roomy : ∀ a, s.reading = .queueing a →
    s.writer.queue.items.length < s.writer.queue.capacity →
      ackedOf s.layer ≤ (s.outside limit).room
  stuck : ∀ a, s.reading = .queueing a → s.Blocked → (s.outside limit).room < ackedOf s.layer

section Room

theorem Coherent.acked_eq (h : Coherent (firstLayer mode g) script s) :
    ackedOf s.layer = (produced (firstLayer mode g) s.delivered).length := by
  rw [h.layer]
  cases mode with
  | plain => rfl
  | reliable model =>
      exact (Layer.record_deliverAll model.dropProbability g s.delivered).tallyAcked

theorem Accounted.acked_eq (h : Accounted (firstLayer mode g) script capacity s)
    (going : ∀ t, s.reading ≠ .ended t) :
    ackedOf s.layer = s.writer.handed.length + s.pending.length := by
  have complete := h.complete (h.unread.going going).live going
  rw [h.toCoherent.acked_eq, ← complete, List.length_append, handed]

theorem Accounted.acked_le_of_receiving (h : Accounted (firstLayer mode g) script capacity s)
    (receiving : s.reading = .receiving) : ackedOf s.layer ≤ 2 * capacity + 1 := by
  rw [h.acked_eq (by simp [receiving])]
  simpa [pending, receiving] using h.unread.writer.handed_le

theorem Accounted.acked_le_of_room (h : Accounted (firstLayer mode g) script capacity s)
    {a : UInt64}
    (queueing : s.reading = .queueing a)
    (room : s.writer.queue.items.length < s.writer.queue.capacity) :
    ackedOf s.layer ≤ 2 * capacity + 1 := by
  have going := h.unread.going (by simp [queueing])
  rw [h.acked_eq (by simp [queueing])]
  simpa [pending, queueing] using going.handed_of_room room

/-- A read loop that has to wait with an acknowledgement has no room for it. -/
theorem Accounted.acked_of_blocked (h : Accounted (firstLayer mode g) script capacity s)
    (roomy : 1 ≤ capacity) {a : UInt64} (queueing : s.reading = .queueing a) (blocked : s.Blocked) :
    ackedOf s.layer = 2 * capacity + 2 := by
  have going := h.unread.going (by simp [queueing])
  have hfull := going.handed_of_full (WriteLoop.waits_of_step_eq_none blocked.waits) roomy
    blocked.full
  rw [h.acked_eq (by simp [queueing]), hfull]
  simp [pending, queueing]

theorem Predictable.attended (h : Predictable mode g script capacity limit s) : Attended s :=
  ⟨h.unread.done, h.unread.writer.senders, h.flag⟩

theorem Predictable.foreseeable (h : Predictable mode g script capacity limit s)
    (roomy : 1 ≤ capacity) : Foreseeable limit s where
  toTimely := h.toTimely
  attended := h.attended
  fresh := by
    intro due settled
    simp [unsettled_of_idle h.unread.peer, settled] at due
  wanted := fun receiving => h.wanted (h.unread.going (by simp [receiving])).live
  listening := fun a queueing =>
    h.toCoherent.listening (h.unread.going (by simp [queueing])).live
  roomy := by
    intro a queueing room
    have := h.acked_le_of_room queueing room
    have := h.unread.writer.queueCapacity
    simp only [outside]
    omega
  stuck := by
    intro a queueing blocked
    have := h.acked_of_blocked roomy queueing blocked
    have := h.unread.writer.queueCapacity
    simp only [outside]
    omega

theorem acked_withheld {l l' : Layer Seeded} {v : Verdict} {id : UInt64}
    (verdict : l.deliver id = (v, l')) (withheld : v ≠ .acknowledged) :
    l'.tally.acked = l.tally.acked := by
  rcases l.deliver_cases id with ⟨_, he⟩ | ⟨_, _, he⟩ | ⟨_, _, he⟩ <;> rw [verdict] at he <;>
    simp only [Prod.mk.injEq] at he
  · rw [he.2]
  · rw [he.2]
  · exact absurd he.1 withheld

end Room

section Reading

theorem unlessStopped_of_calm (calm : s.stop? = none) (x : Foreseen) : s.unlessStopped x = x := by
  simp [unlessStopped, calm]

theorem unlessStopped_of_stop {t : Ending} (stop : s.stop? = some t) (x : Foreseen) :
    s.unlessStopped x = ([], some (t, s.now)) := by
  simp [unlessStopped, stop]

theorem foretold_ended {t : Ending} (limit : Nat) (ended : s.reading = .ended t) :
    s.foretold limit = (s.delivered, some (t, s.now)) := by
  simp [foretold, outlook, ended]

theorem foretold_receiving (receiving : s.reading = .receiving) (calm : s.stop? = none) :
    s.foretold limit = (s.delivered ++ (s.ahead limit).1, (s.ahead limit).2) := by
  simp only [foretold, outlook, receiving, unlessStopped_of_calm calm]

theorem foretold_stopped {t : Ending} (limit : Nat) (live : ∀ t, s.reading ≠ .ended t)
    (stop : s.stop? = some t) : s.foretold limit = (s.delivered, some (t, s.now)) := by
  cases hr : s.reading with
  | receiving => simp [foretold, outlook, hr, unlessStopped_of_stop stop]
  | queueing a => simp [foretold, outlook, hr, unlessStopped_of_stop stop]
  | ended t => exact absurd hr (live t)

/-- What is foretold at the end of a message. -/
theorem foretold_afterMessage (limit : Nat) (calm : s.stop? = none) :
    s.afterMessage.foretold limit =
      (s.delivered ++ ((s.outside limit).goOn s.now (s.ahead limit)).1,
        ((s.outside limit).goOn s.now (s.ahead limit)).2) := by
  rcases s.afterMessage_cases with ⟨hf, he⟩ | ⟨hf, he⟩
  · have hgo : (s.outside limit).goOn s.now (s.ahead limit) =
        ([], some (.localCancel, s.now)) := if_pos hf
    have hlog : (s.note [.autoCancelled s.attempt s.elapsed s.trigger.delay]).delivered =
        s.delivered := delivered_note_of_silent s rfl
    rw [he, hgo, ← hlog]
    rfl
  · have hgo : (s.outside limit).goOn s.now (s.ahead limit) = s.ahead limit :=
      if_neg (Bool.eq_false_iff.mp hf)
    rw [he, hgo]
    exact foretold_receiving (s := { s with reading := .receiving }) rfl calm

/-- What is foretold at the end of a message that needed no room, or found it. -/
theorem foretold_passed {t : Session} (receiving : s.reading = .receiving) (calm : s.stop? = none)
    {m : Message} {rest : Inbound} (steps : s.inbound.steps = .send (.data m) :: rest.steps)
    (awake : rest.wake = none) (room : stalls (s.outside limit).room s.layer m.id = false)
    (log : t.delivered = s.delivered ++ [m.id]) (outside : t.outside limit = s.outside limit)
    (now : t.now = s.now) (stop : t.stop? = s.stop?) (inbound : t.inbound = rest)
    (layer : t.layer = s.layer.map fun l => (l.deliver m.id).2) :
    t.afterMessage.foretold limit = s.foretold limit := by
  have hahead : s.ahead limit =
      (m.id :: ((s.outside limit).goOn s.now (t.ahead limit)).1,
        ((s.outside limit).goOn s.now (t.ahead limit)).2) := by
    simp only [ahead, steps, Outside.foresee, Envelope.data?, room, outside, now, inbound, awake,
      layer, Bool.false_eq_true, if_false]
  rw [foretold_afterMessage limit (stop.trans calm), foretold_receiving receiving calm, hahead,
    log, outside, now, List.append_assoc, List.singleton_append]

/-- What is foretold while an acknowledgement is being queued: nothing more if there is no room. -/
theorem foretold_queueing {t : Session} (receiving : s.reading = .receiving)
    (calm : s.stop? = none) {m : Message} {rest : Inbound} {l l' : Layer Seeded}
    (steps : s.inbound.steps = .send (.data m) :: rest.steps) (awake : rest.wake = none)
    (before : s.layer = some l) (verdict : l.deliver m.id = (.acknowledged, l'))
    (log : t.delivered = s.delivered ++ [m.id]) (outside : t.outside limit = s.outside limit)
    (now : t.now = s.now) (stop : t.stop? = s.stop?) (inbound : t.inbound = rest)
    (layer : t.layer = some l') (queueing : t.reading = .queueing m.id) :
    t.foretold limit = s.foretold limit := by
  have hstalls : stalls (s.outside limit).room s.layer m.id =
      decide ((s.outside limit).room < l'.tally.acked) := by
    simp [stalls, before, verdict]
  have hacked : ackedOf t.layer = l'.tally.acked := by simp [ackedOf, layer]
  have hrequest : t.request? limit = s.request? limit := congrArg Outside.request outside
  have hmap : (s.layer.map fun l => (l.deliver m.id).2) = t.layer := by
    simp [before, verdict, layer]
  rw [foretold_receiving receiving calm]
  by_cases full : (s.outside limit).room < l'.tally.acked
  · have hahead : s.ahead limit = ([m.id], s.request? limit) := by
      rw [decide_eq_true full] at hstalls
      simp only [ahead, steps, Outside.foresee, Envelope.data?, hstalls, if_true]
      rfl
    simp only [foretold, outlook, queueing, unlessStopped_of_calm (stop.trans calm), outside,
      hacked, full, if_true, hrequest, log, hahead, List.append_nil]
  · have hahead : s.ahead limit =
        (m.id :: ((s.outside limit).goOn s.now (t.ahead limit)).1,
          ((s.outside limit).goOn s.now (t.ahead limit)).2) := by
      rw [decide_eq_false full] at hstalls
      simp only [ahead, steps, Outside.foresee, Envelope.data?, hstalls, hmap, outside, now,
        inbound, awake, Bool.false_eq_true, if_false]
    simp only [foretold, outlook, queueing, unlessStopped_of_calm (stop.trans calm), outside,
      hacked, full, if_false, now, log, hahead, List.append_assoc, List.singleton_append]

/-- A message is foreseen with whatever the layer says about it. -/
theorem foretold_data (h : Foreseeable limit s)
    (receiving : s.reading = .receiving) (calm : s.stop? = none) {m : Message} {rest : Inbound}
    (arrival : s.inbound.poll s.now = .item (.data m) rest)
    (verdict : Acknowledges ({ s with inbound := rest, count := s.count + 1 }.note
      [.received s.attempt m.id m.text]) m.id s') :
    s'.foretold limit = s.foretold limit := by
  have polls := Inbound.polls_poll s.inbound s.now
  have hlog : (s.note [.received s.attempt m.id m.text]).delivered = s.delivered ++ [m.id] := by
    simp [Event.receivedId?]
  rw [arrival] at polls
  cases polls with
  | item steps =>
      cases verdict with
      | plain layer =>
          have hlayer : s.layer = none := layer
          exact foretold_passed receiving calm steps rfl (by simp [stalls, hlayer]) hlog rfl rfl
            rfl rfl (by simp [note, hlayer])
      | @passed l l' v e layer verdict withheld silent =>
          have hlayer : s.layer = some l := layer
          have hlog' : ((s.note [.received s.attempt m.id m.text]).note [e]).delivered =
              s.delivered ++ [m.id] := by
            rw [delivered_note, hlog]
            simp [silent]
          exact foretold_passed receiving calm steps rfl
            (by simp [stalls, hlayer, verdict, withheld]) hlog' rfl rfl rfl rfl
            (by simp [note, hlayer, verdict])
      | @queueing l l' layer verdict =>
          have hlayer : s.layer = some l := layer
          exact foretold_queueing receiving calm steps rfl hlayer verdict hlog rfl rfl rfl rfl rfl
            rfl
      | @unwanted l l' layer verdict unwanted =>
          simp [note, h.wanted receiving] at unwanted

/-- The beginning and the end of a wait change nothing in what lies ahead. -/
theorem ahead_moved (h : Foreseeable limit s) (receiving : s.reading = .receiving) {rest : Inbound}
    (arrival : s.inbound.poll s.now = .moved rest) :
    ({ s with inbound := rest } : Session).ahead limit = s.ahead limit := by
  have polls := s.inbound.polls_poll s.now
  rw [arrival] at polls
  cases polls with
  | started steps wake =>
      simp only [ahead, steps, wake, Outside.foresee, Option.getD_some, Option.getD_none]
      rfl
  | @woke d more tick steps wake due =>
      obtain rfl : tick = s.now := by
        have := (h.waking tick receiving wake).1
        omega
      have hnone : ¬ (s.outside limit).request.any (fun r => decide (r.2 < s.now)) = true :=
        Bool.eq_false_iff.mp (request_any_lt_now limit s)
      have hearly : ¬ (s.outside limit).limit < s.now := Nat.not_lt.mpr h.early
      simp only [ahead, steps, wake, Outside.foresee, Option.getD_some]
      rw [if_neg hnone, if_neg hearly]
      rfl

/-- Nor does an envelope without data. -/
theorem ahead_ignored (limit : Nat) {e : Envelope} {rest : Inbound}
    (arrival : s.inbound.poll s.now = .item e rest) (bare : e.data? = none) :
    ({ s with inbound := rest } : Session).ahead limit = s.ahead limit := by
  have polls := s.inbound.polls_poll s.now
  rw [arrival] at polls
  cases polls with
  | item steps =>
      simp only [ahead, steps, Outside.foresee, bare]
      rfl

/-- Every move of the read loop keeps what is foretold. -/
theorem foretold_reads (h : Foreseeable limit s) (move : Reads s s') :
    s'.foretold limit = s.foretold limit := by
  have polls := Inbound.polls_poll s.inbound s.now
  cases move with
  | stopped live stop =>
      rw [foretold_stopped limit live stop]
      exact foretold_ended limit rfl
  | closed receiving calm arrival =>
      rw [arrival] at polls
      cases polls with
      | closed steps finish =>
          have hahead : s.ahead limit = ([], some (.remoteClosed, s.now)) := by
            simp [ahead, steps, Outside.foresee, outside, finish]
          rw [foretold_receiving receiving calm, hahead, List.append_nil]
          exact foretold_ended limit rfl
  | @failed st rest receiving calm arrival =>
      rw [arrival] at polls
      cases polls with
      | failed steps finish =>
          have hahead : s.ahead limit = ([], some (.status st, s.now)) := by
            simp [ahead, steps, Outside.foresee, outside, finish]
          rw [foretold_receiving receiving calm, hahead, List.append_nil]
          exact foretold_ended limit rfl
  | @moved rest receiving calm arrival =>
      have same := ahead_moved h receiving arrival
      rw [foretold_receiving receiving calm, ← same]
      exact foretold_receiving (s := { s with inbound := rest }) receiving calm
  | @ignored e rest receiving calm arrival bare =>
      have hlog : (s.note [.ignoredEnvelope s.attempt]).delivered = s.delivered :=
        delivered_note_of_silent s rfl
      have same := ahead_ignored limit arrival bare
      rw [foretold_receiving receiving calm, ← same, ← hlog]
      exact foretold_receiving
        (s := { s with inbound := rest }.note [.ignoredEnvelope s.attempt]) receiving calm
  | data receiving calm arrival verdict => exact foretold_data h receiving calm arrival verdict
  | @queued a queueing calm listening room =>
      have hroom : ¬ (s.outside limit).room < ackedOf s.layer :=
        Nat.not_lt.mpr (h.roomy a queueing room)
      have hlog : (s.note [.queuedAck s.attempt a]).delivered = s.delivered :=
        delivered_note_of_silent s rfl
      have hnow : s.foretold limit =
          (s.delivered ++ ((s.outside limit).goOn s.now (s.ahead limit)).1,
            ((s.outside limit).goOn s.now (s.ahead limit)).2) := by
        simp only [foretold, outlook, queueing, unlessStopped_of_calm calm, hroom, if_false]
      rw [hnow, ← hlog]
      exact foretold_afterMessage (s := (s.enqueue a).note [.queuedAck s.attempt a]) limit calm
  | @refused a queueing calm gone => simp [h.listening a queueing] at gone

end Reading

section Waiting

/-- What a read loop waits for when both loops wait: the end of a wait, a request while the stream
holds, or a request while there is no room for an acknowledgement. -/
inductive Waiting (room : Nat) (s : Session) : Prop
  | asleep {d : Duration} {rest : List ScriptStep} {tick : Nat} (receiving : s.reading = .receiving)
      (steps : s.inbound.steps = .wait d :: rest) (wake : s.inbound.wake = some tick)
      (early : s.now < tick)
  | held (receiving : s.reading = .receiving) (steps : s.inbound.steps = [])
      (finish : s.inbound.finish = .hold)
  | stuck {a : UInt64} (queueing : s.reading = .queueing a) (full : room < ackedOf s.layer)

theorem Foreseeable.waiting (h : Foreseeable limit s) (quiet : s.Quiet)
    (running : s.isFinished = false) : s.stop? = none ∧ Waiting (s.outside limit).room s := by
  cases readWaits_of_readStep quiet.1 with
  | ended ended => simp [h.attended.finished_of_quiet quiet ended] at running
  | receiving receiving calm arrival =>
      have polls := Inbound.polls_poll s.inbound s.now
      rw [arrival] at polls
      cases polls with
      | waiting steps wake early => exact ⟨calm, .asleep receiving steps wake early⟩
      | held steps finish => exact ⟨calm, .held receiving steps finish⟩
  | queueing queueing =>
      obtain ⟨calm, blocked⟩ := blocked_of_quiet quiet queueing
      exact ⟨calm, .stuck queueing (h.stuck _ queueing blocked)⟩

/-- While the read loop waits, what is foretold does not depend on the present tick. -/
theorem Waiting.foretold_congr (w : Waiting (s.outside limit).room s) (calm : s.stop? = none)
    (stop : s'.stop? = none) (log : s'.delivered = s.delivered)
    (outside : s'.outside limit = s.outside limit) (reading : s'.reading = s.reading)
    (inbound : s'.inbound = s.inbound) (layer : s'.layer = s.layer) :
    s'.foretold limit = s.foretold limit := by
  cases w with
  | asleep receiving steps wake =>
      have same : s'.ahead limit = s.ahead limit := by
        simp only [ahead, outside, inbound, layer, steps, wake, Outside.foresee, Option.getD_some]
      rw [foretold_receiving receiving calm, foretold_receiving (reading.trans receiving) stop,
        same, log]
  | held receiving steps finish =>
      have hfinish : (s.outside limit).finish = .hold := finish
      have same : s'.ahead limit = s.ahead limit := by
        simp only [ahead, outside, inbound, steps, Outside.foresee, hfinish]
      rw [foretold_receiving receiving calm, foretold_receiving (reading.trans receiving) stop,
        same, log]
  | stuck queueing full =>
      have hrequest : s'.request? limit = s.request? limit := congrArg Outside.request outside
      simp only [foretold, outlook, reading, queueing, unlessStopped_of_calm calm,
        unlessStopped_of_calm stop, outside, layer, full, if_true, hrequest, log]

/-- A request that arrives now is the end. -/
theorem Waiting.foretold_of_request (w : Waiting (s.outside limit).room s) (calm : s.stop? = none)
    {t : Ending} (request : s.request? limit = some (t, s.now)) :
    s.foretold limit = (s.delivered, some (t, s.now)) := by
  have hrequest : (s.outside limit).request = some (t, s.now) := request
  cases w with
  | asleep receiving steps wake early =>
      have hahead : s.ahead limit = ([], some (t, s.now)) := by
        simp only [ahead, steps, wake, Outside.foresee, Option.getD_some, hrequest,
          Option.any_some, early, decide_true, if_true]
      rw [foretold_receiving receiving calm, hahead, List.append_nil]
  | held receiving steps finish =>
      have hfinish : (s.outside limit).finish = .hold := finish
      have hahead : s.ahead limit = ([], some (t, s.now)) := by
        simp only [ahead, steps, Outside.foresee, hfinish, hrequest]
      rw [foretold_receiving receiving calm, hahead, List.append_nil]
  | stuck queueing full =>
      simp only [foretold, outlook, queueing, unlessStopped_of_calm calm, full, if_true, request,
        List.append_nil]

/-- At the limit of the clock nothing more comes. -/
theorem Waiting.foretold_of_limit (w : Waiting (s.outside limit).room s) (calm : s.stop? = none)
    (late : limit ≤ s.now) : s.foretold limit = (s.delivered, none) := by
  have request : s.request? limit = none := by
    cases h : s.request? limit with
    | none => rfl
    | some r =>
        have := request_eq_some h
        omega
  have hrequest : (s.outside limit).request = none := request
  cases w with
  | @asleep d rest tick receiving steps wake early =>
      have hlimit : (s.outside limit).limit < tick := Nat.lt_of_le_of_lt late early
      have hahead : s.ahead limit = ([], none) := by
        simp only [ahead, steps, wake, Outside.foresee, Option.getD_some, hrequest,
          Option.any_none, Bool.false_eq_true, if_false, hlimit, if_true]
      rw [foretold_receiving receiving calm, hahead, List.append_nil]
  | held receiving steps finish =>
      have hfinish : (s.outside limit).finish = .hold := finish
      have hahead : s.ahead limit = ([], none) := by
        simp only [ahead, steps, Outside.foresee, hfinish, hrequest]
      rw [foretold_receiving receiving calm, hahead, List.append_nil]
  | stuck queueing full =>
      simp only [foretold, outlook, queueing, unlessStopped_of_calm calm, full, if_true, request,
        List.append_nil]

theorem outside_eq (request : s'.request? limit = s.request? limit)
    (trigger : s'.trigger = s.trigger)
    (openedAt : s'.openedAt = s.openedAt) (inbound : s'.inbound = s.inbound)
    (writer : s'.writer.queue.capacity = s.writer.queue.capacity) :
    s'.outside limit = s.outside limit := by
  simp only [outside, request, trigger, openedAt, inbound, writer]

/-- Every repetition of a run keeps what is foretold. -/
theorem foretold_next (h : Foreseeable limit s) (next : Next limit s s') :
    s'.foretold limit = s.foretold limit := by
  cases next with
  | @read s₁ turn move =>
      have h₁ : s₁.foretold limit = s.foretold limit := foretold_reads h (reads_of_readStep move)
      exact h₁
  | @write s₁ turn move =>
      obtain ⟨w, events, hw, rfl⟩ := writeStep_eq_some move
      have hlog : (s.note events).delivered = s.delivered :=
        delivered_note_of_silent s hw.receivedIds
      have hcapacity : w.queue.capacity = s.writer.queue.capacity := by
        cases hw <;> rfl
      have houtside : ({ s with writer := w } : Session).outside limit = s.outside limit :=
        outside_eq rfl rfl rfl rfl hcapacity
      have houtlook : ({ s with writer := w } : Session).outlook limit = s.outlook limit := by
        simp only [outlook, unlessStopped, ahead, houtside]
        rfl
      have heq : ({ s with writer := w }.note events).foretold limit =
          ((s.note events).delivered ++ (({ s with writer := w } : Session).outlook limit).1,
            (({ s with writer := w } : Session).outlook limit).2) := rfl
      rw [hlog, houtlook] at heq
      exact heq
  | settle quiet running early due =>
      obtain ⟨calm, waiting⟩ := h.waiting quiet running
      have going : ∀ t, s.settle.reading ≠ .ended t := by
        intro t ended
        simp [h.attended.finished_of_quiet quiet ended] at running
      rcases settle_request (h.fresh due) calm early with ⟨stop, same⟩ | ⟨t, stop, request⟩
      · exact waiting.foretold_congr calm stop rfl (outside_eq same rfl rfl rfl rfl) rfl rfl rfl
      · rw [waiting.foretold_of_request calm request, foretold_stopped limit going stop]
        rfl
  | advance quiet running early idle =>
      obtain ⟨calm, waiting⟩ := h.waiting quiet running
      have settled : s.settled = true := by
        simp only [unsettled, Bool.or_eq_false_iff, Bool.not_eq_false'] at idle
        exact idle.1
      exact waiting.foretold_congr calm calm rfl
        (outside_eq (advance_request settled) rfl rfl rfl rfl) rfl rfl rfl

end Waiting

section Runs

/-- The clock of a session whose write loop knows of the end. -/
theorem Timely.next_of_attended (h : Timely limit s) (attended : Attended s)
    (next : Next limit s s') : Timely limit s' := by
  refine h.next next fun t ended => ?_
  by_cases quiet : s.Quiet
  · exact Or.inl (attended.finished_of_quiet quiet ended)
  · exact Or.inr quiet

theorem fired_afterMessage {n : Nat} (unfired : s.trigger.fired = false)
    (room : ackedOf s.layer ≤ n) (fired : s.afterMessage.trigger.fired = true) :
    (∃ t, s.afterMessage.reading = .ended t) ∧ ackedOf s.afterMessage.layer ≤ n := by
  rcases s.afterMessage_cases with ⟨_, he⟩ | ⟨_, he⟩
  · rw [he]
    exact ⟨⟨_, rfl⟩, room⟩
  · rw [he] at fired
    simp [unfired] at fired

/-- The trigger fires only at the end of a message that there was room for. -/
theorem Predictable.fired_reads (h : Predictable mode g script capacity limit s)
    (move : Reads s s') (fired : s'.trigger.fired = true) :
    (∃ t, s'.reading = .ended t) ∧ ackedOf s'.layer ≤ 2 * capacity + 1 := by
  have unfired (live : ∀ t, s.reading ≠ .ended t) : s.trigger.fired = false := by
    rw [← Bool.not_eq_true]
    intro hf
    obtain ⟨⟨t, ended⟩, _⟩ := h.fired hf
    exact live t ended
  cases move with
  | stopped live => exact absurd fired (Bool.eq_false_iff.mp (unfired live))
  | closed receiving => exact absurd fired (Bool.eq_false_iff.mp (unfired (by simp [receiving])))
  | failed receiving => exact absurd fired (Bool.eq_false_iff.mp (unfired (by simp [receiving])))
  | moved receiving => exact absurd fired (Bool.eq_false_iff.mp (unfired (by simp [receiving])))
  | ignored receiving =>
      exact absurd fired (Bool.eq_false_iff.mp (unfired (by simp [receiving])))
  | @data m rest _ receiving calm arrival verdict =>
      have hu := unfired (by simp [receiving])
      have hroom := h.acked_le_of_receiving receiving
      cases verdict with
      | plain => exact fired_afterMessage hu hroom fired
      | @passed l l' v e layer verdict withheld =>
          have hlayer : s.layer = some l := layer
          rw [hlayer] at hroom
          have hacked : ackedOf (some l') ≤ 2 * capacity + 1 :=
            Nat.le_trans (Nat.le_of_eq (acked_withheld verdict withheld)) hroom
          exact fired_afterMessage hu hacked fired
      | queueing => exact absurd fired (Bool.eq_false_iff.mp hu)
      | unwanted layer verdict unwanted =>
          have hopen := h.wanted (h.unread.going (by simp [receiving])).live
          simp [note, hopen] at unwanted
  | @queued a queueing calm listening room =>
      have hroom := h.acked_le_of_room queueing room
      exact fired_afterMessage (unfired (by simp [queueing])) hroom fired
  | @refused a queueing calm gone =>
      have hopen := h.listening (h.unread.going (by simp [queueing])).live
      simp [hopen] at gone

theorem Predictable.next (h : Predictable mode g script capacity limit s)
    (next : Next limit s s') : Predictable mode g script capacity limit s' := by
  have accounted := h.toAccounted.next next
  have timely := h.toTimely.next_of_attended h.attended next
  refine { accounted with toTimely := timely, fired := ?_ }
  cases next with
  | @read s₁ turn move =>
      have fired := h.fired_reads (reads_of_readStep move)
      exact fired
  | write turn move =>
      obtain ⟨w, events, hw, rfl⟩ := writeStep_eq_some move
      exact h.fired
  | settle =>
      rw [settle_of_idle h.unread.peer]
      exact h.fired
  | advance => exact h.fired

end Runs

end Session

/-- What a report says besides its counters of acknowledgements. -/
def Report.brief (r : Report) : Outcome × Nat × Nat × Option String :=
  (r.outcome, r.messageCount, r.elapsed, r.detail)

/-- What is foreseen, as a report tells it. No cancel has been asked for at an end of another
kind. -/
def Foreseen.brief (openedAt : Nat) (f : Foreseen) : Option (Outcome × Nat × Nat × Option String) :=
  f.2.map fun e => (e.1.outcome false, f.1.length, e.2 - openedAt, e.1.detail?)

namespace Session

variable {mode : AckMode} {g : Seeded} {script : List UInt64} {capacity limit : Nat}
  {s s' : Session}

/-- Where nothing is left to do before the limit, everything foretold has happened. -/
theorem Foreseeable.report_of_over (h : Foreseeable limit s)
    (count : s.count = s.delivered.length) (halted : s.next limit = none) :
    s.delivered = (s.foretold limit).1 ∧
      s.report?.map Report.brief = (s.foretold limit).brief s.openedAt := by
  obtain ⟨quiet, hover⟩ := over_of_next_eq_none halted
  by_cases finished : s.isFinished = true
  · obtain ⟨⟨t, ended⟩, phase⟩ := (isFinished_iff s).mp finished
    have houtcome : s.outcome t = t.outcome false := by
      by_cases kind : t = .localCancel
      · rw [kind]
        rfl
      · rw [outcome, h.asked t ended kind]
    rw [foretold_ended limit ended]
    refine ⟨rfl, ?_⟩
    simp only [report?, ended, (isEnded_iff s.writer).mpr phase, if_true, Option.map_some,
      Report.brief, Foreseen.brief, houtcome, count, elapsed]
  · have late : limit ≤ s.now := hover.resolve_left finished
    obtain ⟨calm, waiting⟩ := h.waiting quiet (Bool.eq_false_iff.mpr finished)
    have report : s.report? = none := by
      cases waiting with
      | asleep receiving => simp [report?, receiving]
      | held receiving => simp [report?, receiving]
      | stuck queueing => simp [report?, queueing]
    rw [waiting.foretold_of_limit calm late, report]
    exact ⟨rfl, rfl⟩

theorem Predictable.unfolds (h : Predictable mode g script capacity limit s) (roomy : 1 ≤ capacity)
    (hu : Unfolds limit s s') :
    Predictable mode g script capacity limit s' ∧ s'.foretold limit = s.foretold limit :=
  hu.keeps (P := fun s' => Predictable mode g script capacity limit s' ∧
      s'.foretold limit = s.foretold limit)
    (fun _ _ ⟨h', same⟩ next =>
      ⟨h'.next next, (foretold_next (h'.foreseeable roomy) next).trans same⟩) ⟨h, rfl⟩

/-- A run comes to what is foretold at its start. -/
theorem Predictable.run (h : Predictable mode g script capacity limit s) (roomy : 1 ≤ capacity)
    (poll : 1 ≤ s.writer.poll) :
    (s.run limit).delivered = (s.foretold limit).1 ∧
      (s.run limit).report?.map Report.brief = (s.foretold limit).brief s.openedAt := by
  have hu := unfolds_run limit s
  obtain ⟨h', same⟩ := h.unfolds roomy hu
  have halted := (h'.foreseeable roomy).report_of_over h'.count (next_run limit poll)
  rw [same, hu.reaches.continues.openedAt] at halted
  exact halted

end Session

end DuplexStream
