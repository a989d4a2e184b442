import DuplexStream.Session.Run

/-!
# The moves of a session

What one move of each loop can do, case by case, and in which states a loop has to wait. The
relations below say everything about `WriteLoop.step`, `Session.readStep` and `Session.next`; later
modules argue from them.
-/

namespace DuplexStream

namespace Peer

variable {p : Peer} {q : Queue UInt64}

/-- What a peer can do at its turn: it takes some of what is on its way to it, or hangs up. -/
inductive Acts (p : Peer) (q : Queue UInt64) : Peer → Queue UInt64 → Prop
  | takes (n rest : Nat) (phase : Listening) :
      Acts p q ⟨rest, phase, p.taken ++ q.items.take n⟩ { q with items := q.items.drop n }
  | hangsUp (phase : Listening) : Acts p q { p with phase := phase } q.hangUp

/-- Moving on without taking anything. -/
theorem acts_idle (phase : Listening) : p.Acts q { p with phase := phase } q := by
  simpa using Acts.takes 0 p.rest phase

/-- Taking the first item. -/
theorem acts_first {a : UInt64} {rest : List UInt64} (queued : q.items = a :: rest)
    (phase : Listening) :
    p.Acts q { p with phase := phase, taken := p.taken ++ [a] } { q with items := rest } := by
  simpa [queued] using Acts.takes (p := p) (q := q) 1 p.rest phase

theorem acts_read (p : Peer) (now : Nat) (q : Queue UInt64) :
    p.Acts q (p.read now q).1 (p.read now q).2 := by
  by_cases restless : p.rest = 0
  · simpa [read, restless] using Acts.takes (p := p) (q := q) q.items.length 0 .ready
  · cases queued : q.items with
    | nil => simpa only [read, if_neg restless, queued] using acts_idle _
    | cons a rest => simpa only [read, if_neg restless, queued] using acts_first queued _

theorem acts_await (p : Peer) (later : List Visit) (now : Nat) (q : Queue UInt64) :
    p.Acts q (p.await later now q).1 (p.await later now q).2 := by
  cases queued : q.items with
  | nil => simpa only [await, queued] using acts_idle _
  | cons a rest => simpa only [await, queued] using acts_first queued _

theorem acts_visit (p : Peer) (move : PeerMove) (later : List Visit) (now : Nat)
    (q : Queue UInt64) : p.Acts q (p.visit move later now q).1 (p.visit move later now q).2 := by
  cases move with
  | take n => exact .takes n p.rest _
  | await => exact p.acts_await later now q
  | leave => exact .hangsUp _

/-- Everything a peer can do at its turn. -/
theorem acts_act (p : Peer) (now : Nat) (q : Queue UInt64) :
    p.Acts q (p.act now q).1 (p.act now q).2 := by
  have idle : p.Acts q p q := acts_idle p.phase
  cases phase : p.phase with
  | ignoring | gone => simpa only [act, phase] using idle
  | leaving tick =>
      by_cases due : tick ≤ now
      · simpa only [act, phase, if_pos due] using .hangsUp _
      · simpa only [act, phase, if_neg due] using idle
  | resting tick =>
      by_cases due : tick ≤ now
      · simpa only [act, phase, if_pos due] using p.acts_read now q
      · simpa only [act, phase, if_neg due] using idle
  | ready => simpa only [act, phase] using p.acts_read now q
  | visiting since schedule =>
      cases schedule with
      | nil => simpa only [act, phase] using idle
      | cons v later =>
          by_cases due : since + v.rest.ticks ≤ now
          · simpa only [act, phase, if_pos due] using p.acts_visit v.move later now q
          · simpa only [act, phase, if_neg due] using idle
  | awaiting later => simpa only [act, phase] using p.acts_await later now q

/-- A peer that has nothing to do now has its next timer ahead. -/
theorem lt_of_due {now due : Nat} (planned : p.due? = some due) (idle : p.canAct now q = false) :
    now < due := by
  obtain ⟨rest, phase, taken⟩ := p
  cases phase with
  | visiting since schedule =>
      cases schedule with
      | nil => cases planned
      | cons v later =>
          simp [due?, canAct] at planned idle
          omega
  | _ => simp [due?, canAct] at planned idle <;> omega

theorem act_cases (p : Peer) (now : Nat) (q : Queue UInt64) :
    (∃ n rest phase, p.act now q =
      (⟨rest, phase, p.taken ++ q.items.take n⟩, { q with items := q.items.drop n })) ∨
    (∃ phase, p.act now q = ({ p with phase := phase }, q.hangUp)) := by
  have acts := p.acts_act now q
  generalize p.act now q = made at acts
  obtain ⟨p', q'⟩ := made
  cases acts with
  | takes n rest phase => exact .inl ⟨n, rest, phase, rfl⟩
  | hangsUp phase => exact .inr ⟨phase, rfl⟩

end Peer

/-- What a stream answers when it is asked for its next item, case by case. -/
inductive Inbound.Polls (i : Inbound) (now : Nat) : Arrival → Prop
  | item {e : Envelope} {rest : List ScriptStep} (steps : i.steps = .send e :: rest) :
      Polls i now (.item e ⟨rest, i.finish, none⟩)
  | started {d : Duration} {rest : List ScriptStep} (steps : i.steps = .wait d :: rest)
      (wake : i.wake = none) : Polls i now (.moved { i with wake := some (now + d.ticks) })
  | woke {d : Duration} {rest : List ScriptStep} {tick : Nat} (steps : i.steps = .wait d :: rest)
      (wake : i.wake = some tick) (due : tick ≤ now) :
      Polls i now (.moved ⟨rest, i.finish, none⟩)
  | waiting {d : Duration} {rest : List ScriptStep} {tick : Nat}
      (steps : i.steps = .wait d :: rest) (wake : i.wake = some tick) (early : now < tick) :
      Polls i now .pending
  | closed (steps : i.steps = []) (finish : i.finish = .close) : Polls i now .closed
  | failed {st : Status} (steps : i.steps = []) (finish : i.finish = .fail st) :
      Polls i now (.status st ⟨[], .close, i.wake⟩)
  | held (steps : i.steps = []) (finish : i.finish = .hold) : Polls i now .pending

theorem Inbound.polls_poll (i : Inbound) (now : Nat) : Polls i now (i.poll now) := by
  cases hs : i.steps with
  | nil =>
      cases hf : i.finish with
      | close => simpa [poll, hs, hf] using Polls.closed hs hf
      | fail st => simpa [poll, hs, hf] using Polls.failed hs hf
      | hold => simpa [poll, hs, hf] using Polls.held hs hf
  | cons head rest =>
      cases head with
      | send e => simpa [poll, hs] using Polls.item hs
      | wait d =>
          cases hw : i.wake with
          | none => simpa [poll, hs, hw] using Polls.started hs hw
          | some tick =>
              by_cases hd : tick ≤ now
              · simpa [poll, hs, hw, hd] using Polls.woke hs hw hd
              · simpa [poll, hs, hw, hd] using Polls.waiting hs hw (Nat.not_le.mp hd)

/-- The message that an event notes as received. -/
def Event.receivedId? : Event → Option UInt64
  | .received _ id _ => some id
  | _ => none

/-- The event is one of the read loop, and not the firing of the trigger. -/
def Event.ofReader : Event → Bool
  | .ignoredEnvelope .. => true
  | .received .. => true
  | .redelivered .. => true
  | .simulatedDrop .. => true
  | .queuedAck .. => true
  | .writerStopped .. => true
  | _ => false

namespace WriteLoop

/-- One move of the write loop at a tick, with what is noted. -/
inductive Step (w : WriteLoop) (now : Nat) : WriteLoop → List Event → Prop
  | took {deadline : Nat} {a : UInt64} {rest : List UInt64}
      (polling : w.phase = .polling deadline) (queued : w.queue.items = a :: rest) :
      Step w now { w with queue := { w.queue with items := rest }, phase := .sending a } []
  | drained {deadline : Nat} (polling : w.phase = .polling deadline)
      (empty : w.queue.items = []) (closed : w.queue.senders = 0) :
      Step w now w.finish [w.finishEvent]
  | gaveUp {deadline : Nat} (polling : w.phase = .polling deadline)
      (empty : w.queue.items = []) (held : w.queue.senders ≠ 0) (late : deadline ≤ now)
      (done : w.done = true) : Step w now w.finish [w.finishEvent]
  | repolled {deadline : Nat} (polling : w.phase = .polling deadline)
      (empty : w.queue.items = []) (held : w.queue.senders ≠ 0) (late : deadline ≤ now)
      (running : w.done = false) : Step w now (w.repoll now) []
  | sent {a : UInt64} (sending : w.phase = .sending a) (listening : w.outbound.listening = true)
      (room : w.outbound.items.length < w.outbound.capacity) :
      Step w now
        ({ w with
          outbound := { w.outbound with items := w.outbound.items ++ [a] }
          sent := w.sent + 1
          written := w.written ++ [a] }.repoll now)
        [.sentAck w.attempt a]
  | refused {a : UInt64} (sending : w.phase = .sending a)
      (gone : w.outbound.listening = false) :
      Step w now w.finish [.outboundClosed w.attempt, w.finishEvent]
  | abandoned {a : UInt64} (sending : w.phase = .sending a)
      (listening : w.outbound.listening = true)
      (full : w.outbound.capacity ≤ w.outbound.items.length) (done : w.done = true) :
      Step w now w.finish [.outboundFull w.attempt a, w.finishEvent]

/-- The states in which the write loop has to wait. -/
inductive Waits (w : WriteLoop) (now : Nat) : Prop
  | ended (phase : w.phase = .ended)
  | idle {deadline : Nat} (polling : w.phase = .polling deadline)
      (empty : w.queue.items = []) (held : w.queue.senders ≠ 0) (early : now < deadline)
  | blocked {a : UInt64} (sending : w.phase = .sending a)
      (listening : w.outbound.listening = true)
      (full : w.outbound.capacity ≤ w.outbound.items.length) (running : w.done = false)

private theorem step_settled {w w₁ : WriteLoop} {now : Nat} {events₁ : List Event}
    (hm : Step w now w₁ events₁) (he : w.step now = some (w₁, events₁)) :
    (∀ w' events, w.step now = some (w', events) → Step w now w' events) ∧
      (w.step now = none → Waits w now) := by
  rw [he]
  refine ⟨fun w' events h => ?_, by simp⟩
  simp only [Option.some.injEq, Prod.mk.injEq] at h
  exact h.1 ▸ h.2 ▸ hm

private theorem step_polling {w : WriteLoop} {now deadline : Nat}
    (hp : w.phase = .polling deadline) :
    (∀ w' events, w.step now = some (w', events) → Step w now w' events) ∧
      (w.step now = none → Waits w now) := by
  cases hq : w.queue.items with
  | cons a rest => exact step_settled (.took hp hq) (by simp [step, hp, Queue.receive, hq])
  | nil =>
      by_cases hs : w.queue.senders = 0
      · exact step_settled (.drained hp hq hs) (by simp [step, hp, Queue.receive, hq, hs])
      · by_cases hl : deadline ≤ now
        · cases hd : w.done with
          | true =>
              exact step_settled (.gaveUp hp hq hs hl hd)
                (by simp [step, hp, Queue.receive, hq, hs, hl, hd])
          | false =>
              exact step_settled (.repolled hp hq hs hl hd)
                (by simp [step, hp, Queue.receive, hq, hs, hl, hd])
        · refine ⟨?_, fun _ => .idle hp hq hs (by omega)⟩
          simp [step, hp, Queue.receive, hq, hs, hl]

private theorem step_sending {w : WriteLoop} {now : Nat} {a : UInt64}
    (hp : w.phase = .sending a) :
    (∀ w' events, w.step now = some (w', events) → Step w now w' events) ∧
      (w.step now = none → Waits w now) := by
  rcases w.outbound.send_cases a with ⟨hl, he⟩ | ⟨hl, hr, he⟩ | ⟨hl, hr, he⟩
  · exact step_settled (.refused hp hl) (by simp [step, hp, he])
  · exact step_settled (.sent hp hl hr) (by simp [step, hp, he])
  · cases hd : w.done with
    | true => exact step_settled (.abandoned hp hl hr hd) (by simp [step, hp, he, hd])
    | false =>
        refine ⟨?_, fun _ => .blocked hp hl hr hd⟩
        simp [step, hp, he, hd]

/-- Everything a move of the write loop can do. -/
theorem step_of_eq_some {w w' : WriteLoop} {now : Nat} {events : List Event}
    (h : w.step now = some (w', events)) : Step w now w' events := by
  cases hp : w.phase with
  | polling deadline => exact (step_polling hp).1 w' events h
  | sending a => exact (step_sending hp).1 w' events h
  | ended => simp [step, hp] at h

/-- The write loop makes no move only where it has to wait. -/
theorem waits_of_step_eq_none {w : WriteLoop} {now : Nat} (h : w.step now = none) :
    Waits w now := by
  cases hp : w.phase with
  | polling deadline => exact (step_polling hp).2 h
  | sending a => exact (step_sending hp).2 h
  | ended => exact .ended hp

/-- No event of the write loop is a reception. -/
theorem Step.receivedIds {w w' : WriteLoop} {now : Nat} {events : List Event}
    (h : Step w now w' events) : events.filterMap Event.receivedId? = [] := by
  cases h <;> rfl

end WriteLoop

namespace Session

/-- At the end of a message the trigger ends the session, or the loop reads on. -/
theorem afterMessage_cases (s : Session) :
    (s.trigger.fires (.ofMillis s.elapsed) = true ∧
      s.afterMessage =
        (({ s with trigger := { s.trigger with fired := true } }.note
          [.autoCancelled s.attempt s.elapsed s.trigger.delay]).requestCancel).endReading
            .localCancel) ∨
    (s.trigger.fires (.ofMillis s.elapsed) = false ∧
      s.afterMessage = { s with reading := .receiving }) := by
  cases hf : s.trigger.fires (.ofMillis s.elapsed) with
  | true => exact Or.inl ⟨rfl, by simp [afterMessage, Trigger.observe, hf]⟩
  | false => exact Or.inr ⟨rfl, by simp [afterMessage, Trigger.observe, hf]⟩

section Places

variable {s : Session}

/-- What the read loop does with an answer of its stream. -/
def answered (s : Session) : Arrival → Option Session
  | .item e rest => some ({ s with inbound := rest }.receive e)
  | .status st rest => some ({ s with inbound := rest }.endReading (.status st))
  | .closed => some (s.endReading .remoteClosed)
  | .moved rest => some { s with inbound := rest }
  | .pending => none

/-- What the read loop does with an answer of its queue. -/
def offer (s : Session) (id : UInt64) : Sending UInt64 → Option Session
  | .sent q =>
    some (({ s with writer := { s.writer with queue := q } }.note
      [.queuedAck s.attempt id]).afterMessage)
  | .closed => some (({ s with acksOpen := false }.note [.writerStopped s.attempt id]).afterMessage)
  | .full => none

/-- What the read loop does with a verdict. -/
def judge (s : Session) (id : UInt64) : Verdict × Layer Seeded → Session
  | (.redelivered, l) => ({ s with layer := some l }.note [.redelivered id]).afterMessage
  | (.dropped, l) => ({ s with layer := some l }.note [.simulatedDrop id]).afterMessage
  | (.acknowledged, l) =>
    if s.acksOpen then { s with layer := some l, reading := .queueing id }
    else { s with layer := some l }.afterMessage

theorem readStep_of_stop {e : Ending} (live : ∀ e, s.reading ≠ .ended e)
    (stop : s.stop? = some e) : s.readStep = some (s.endReading e) := by
  cases hr : s.reading with
  | ended e => exact absurd hr (live e)
  | receiving | queueing => simp only [readStep, hr, stop]

theorem readStep_eq_answered (receiving : s.reading = .receiving) (calm : s.stop? = none) :
    s.readStep = s.answered (s.inbound.poll s.now) := by
  cases hp : s.inbound.poll s.now <;> simp only [readStep, receiving, calm, hp, answered]

theorem readStep_eq_offer {id : UInt64} (queueing : s.reading = .queueing id)
    (calm : s.stop? = none) : s.readStep = s.offer id (s.writer.queue.send id) := by
  cases hq : s.writer.queue.send id <;> simp only [readStep, queueing, calm, hq, offer]

theorem acknowledge_eq_judge {l : Layer Seeded} (layer : s.layer = some l) (id : UInt64) :
    s.acknowledge id = s.judge id (l.deliver id) := by
  simp only [acknowledge, layer]
  cases hd : l.deliver id with
  | mk verdict l' => cases verdict <;> rfl

end Places

/-- What the layer's verdict on a message leads to. -/
inductive Acknowledges (s : Session) (id : UInt64) : Session → Prop
  | plain (layer : s.layer = none) : Acknowledges s id s.afterMessage
  | passed {l l' : Layer Seeded} {v : Verdict} {e : Event} (layer : s.layer = some l)
      (verdict : l.deliver id = (v, l')) (withheld : v ≠ .acknowledged)
      (silent : e.receivedId? = none) :
      Acknowledges s id (({ s with layer := some l' }.note [e]).afterMessage)
  | queueing {l l' : Layer Seeded} (layer : s.layer = some l)
      (verdict : l.deliver id = (.acknowledged, l')) (wanted : s.acksOpen = true) :
      Acknowledges s id { s with layer := some l', reading := .queueing id }
  | unwanted {l l' : Layer Seeded} (layer : s.layer = some l)
      (verdict : l.deliver id = (.acknowledged, l')) (unwanted : s.acksOpen = false) :
      Acknowledges s id ({ s with layer := some l' }.afterMessage)

theorem acknowledges_acknowledge (s : Session) (id : UInt64) :
    Acknowledges s id (s.acknowledge id) := by
  cases hl : s.layer with
  | none =>
      simp only [acknowledge, hl]
      exact .plain hl
  | some l =>
      rw [acknowledge_eq_judge hl]
      cases hd : l.deliver id with
      | mk v l' =>
          cases v with
          | redelivered => exact .passed hl hd (by decide) rfl
          | dropped => exact .passed hl hd (by decide) rfl
          | acknowledged =>
              by_cases wanted : s.acksOpen = true
              · rw [judge, if_pos wanted]
                exact .queueing hl hd wanted
              · rw [judge, if_neg wanted]
                exact .unwanted hl hd (Bool.eq_false_iff.mpr wanted)

/-- The session with an acknowledgement at the end of the queue. -/
def enqueue (s : Session) (a : UInt64) : Session :=
  { s with
    writer := { s.writer with
      queue := { s.writer.queue with items := s.writer.queue.items ++ [a] } } }

/-- One move of the read loop. -/
inductive Reads (s : Session) : Session → Prop
  | stopped {t : Ending} (live : ∀ t, s.reading ≠ .ended t) (stop : s.stop? = some t) :
      Reads s (s.endReading t)
  | closed (receiving : s.reading = .receiving) (calm : s.stop? = none)
      (arrival : s.inbound.poll s.now = .closed) : Reads s (s.endReading .remoteClosed)
  | failed {st : Status} {rest : Inbound} (receiving : s.reading = .receiving)
      (calm : s.stop? = none) (arrival : s.inbound.poll s.now = .status st rest) :
      Reads s ({ s with inbound := rest }.endReading (.status st))
  | moved {rest : Inbound} (receiving : s.reading = .receiving) (calm : s.stop? = none)
      (arrival : s.inbound.poll s.now = .moved rest) : Reads s { s with inbound := rest }
  | ignored {e : Envelope} {rest : Inbound} (receiving : s.reading = .receiving)
      (calm : s.stop? = none) (arrival : s.inbound.poll s.now = .item e rest)
      (bare : e.data? = none) :
      Reads s ({ s with inbound := rest }.note [.ignoredEnvelope s.attempt])
  | data {m : Message} {rest : Inbound} {s' : Session} (receiving : s.reading = .receiving)
      (calm : s.stop? = none) (arrival : s.inbound.poll s.now = .item (.data m) rest)
      (verdict : Acknowledges ({ s with inbound := rest, count := s.count + 1 }.note
        [.received s.attempt m.id m.text]) m.id s') : Reads s s'
  | queued {a : UInt64} (queueing : s.reading = .queueing a) (calm : s.stop? = none)
      (listening : s.writer.queue.listening = true)
      (room : s.writer.queue.items.length < s.writer.queue.capacity) :
      Reads s (((s.enqueue a).note [.queuedAck s.attempt a]).afterMessage)
  | refused {a : UInt64} (queueing : s.reading = .queueing a) (calm : s.stop? = none)
      (gone : s.writer.queue.listening = false) :
      Reads s (({ s with acksOpen := false }.note [.writerStopped s.attempt a]).afterMessage)

/-- The states in which the read loop has to wait. -/
inductive ReadWaits (s : Session) : Prop
  | ended {t : Ending} (ended : s.reading = .ended t)
  | receiving (receiving : s.reading = .receiving) (calm : s.stop? = none)
      (arrival : s.inbound.poll s.now = .pending)
  | queueing {a : UInt64} (queueing : s.reading = .queueing a) (calm : s.stop? = none)
      (listening : s.writer.queue.listening = true)
      (full : s.writer.queue.capacity ≤ s.writer.queue.items.length)

private theorem readStep_settled {s s₁ : Session} (hm : Reads s s₁)
    (he : s.readStep = some s₁) :
    (∀ s', s.readStep = some s' → Reads s s') ∧ (s.readStep = none → ReadWaits s) := by
  rw [he]
  refine ⟨fun s' h => ?_, by simp⟩
  simp only [Option.some.injEq] at h
  exact h ▸ hm

private theorem readStep_receiving {s : Session} (hr : s.reading = .receiving) :
    (∀ s', s.readStep = some s' → Reads s s') ∧ (s.readStep = none → ReadWaits s) := by
  have live : ∀ t, s.reading ≠ .ended t := by simp [hr]
  cases hs : s.stop? with
  | some t => exact readStep_settled (.stopped live hs) (readStep_of_stop live hs)
  | none =>
      have step := readStep_eq_answered hr hs
      cases hp : s.inbound.poll s.now with rw [hp] at step
      | item e rest =>
          cases e with
          | empty | ack => exact readStep_settled (.ignored hr hs hp rfl) step
          | data m => exact readStep_settled (.data hr hs hp (acknowledges_acknowledge _ m.id)) step
      | status st rest => exact readStep_settled (.failed hr hs hp) step
      | closed => exact readStep_settled (.closed hr hs hp) step
      | moved rest => exact readStep_settled (.moved hr hs hp) step
      | pending => exact ⟨by simp [step, answered], fun _ => .receiving hr hs hp⟩

private theorem readStep_queueing {s : Session} {a : UInt64} (hr : s.reading = .queueing a) :
    (∀ s', s.readStep = some s' → Reads s s') ∧ (s.readStep = none → ReadWaits s) := by
  have live : ∀ t, s.reading ≠ .ended t := by simp [hr]
  cases hs : s.stop? with
  | some t => exact readStep_settled (.stopped live hs) (readStep_of_stop live hs)
  | none =>
      have step := readStep_eq_offer hr hs
      rcases s.writer.queue.send_cases a with ⟨hl, he⟩ | ⟨hl, hc, he⟩ | ⟨hl, hc, he⟩ <;>
        rw [he] at step
      · exact readStep_settled (.refused hr hs hl) step
      · exact readStep_settled (.queued hr hs hl hc) step
      · exact ⟨by simp [step, offer], fun _ => .queueing hr hs hl hc⟩

/-- Everything a move of the read loop can do. -/
theorem reads_of_readStep {s s' : Session} (h : s.readStep = some s') : Reads s s' := by
  cases hr : s.reading with
  | receiving => exact (readStep_receiving hr).1 s' h
  | queueing a => exact (readStep_queueing hr).1 s' h
  | ended t => simp [readStep, hr] at h

/-- The read loop makes no move only where it has to wait. -/
theorem readWaits_of_readStep {s : Session} (h : s.readStep = none) : ReadWaits s := by
  cases hr : s.reading with
  | receiving => exact (readStep_receiving hr).2 h
  | queueing a => exact (readStep_queueing hr).2 h
  | ended t => exact .ended hr

/-- What a move of the read loop notes: events of its own, and at the end of them the firing of the
trigger, if it fires. -/
inductive Notes (s s' : Session) : Prop
  | quietly {events : List Event} (own : ∀ e ∈ events, e.ofReader = true)
      (log : s'.log = events ++ s.log) (trigger : s'.trigger = s.trigger) : Notes s s'
  | firing {events : List Event} (own : ∀ e ∈ events, e.ofReader = true)
      (log : s'.log =
        .autoCancelled s.attempt s.elapsed s.trigger.delay :: (events ++ s.log))
      (fires : s.trigger.fires (.ofMillis s.elapsed) = true)
      (trigger : s'.trigger = { s.trigger with fired := true }) : Notes s s'

section Noting

variable {s s' a : Session} {events : List Event}

/-- A session `a` that differs from `s` in parts the trigger does not look at, and in events of the
read loop. -/
structure Tells (s : Session) (events : List Event) (a : Session) : Prop where
  own : ∀ e ∈ events, e.ofReader = true
  log : a.log = events ++ s.log
  trigger : a.trigger = s.trigger
  attempt : a.attempt = s.attempt
  elapsed : a.elapsed = s.elapsed

theorem Tells.notes (h : Tells s events a) : Notes s a :=
  .quietly h.own h.log h.trigger

theorem tells_of_same (log : a.log = s.log) (trigger : a.trigger = s.trigger)
    (attempt : a.attempt = s.attempt) (elapsed : a.elapsed = s.elapsed) : Tells s [] a where
  own := by simp
  log := log
  trigger := trigger
  attempt := attempt
  elapsed := elapsed

theorem Tells.note (h : Tells s events a) {e : Event} (own : e.ofReader = true) :
    Tells s (e :: events) (a.note [e]) where
  own := List.forall_mem_cons.mpr ⟨own, h.own⟩
  log := congrArg (e :: ·) h.log
  trigger := h.trigger
  attempt := h.attempt
  elapsed := h.elapsed

theorem Tells.withLayer (h : Tells s events a) (layer : Option (Layer Seeded)) :
    Tells s events { a with layer := layer } :=
  ⟨h.own, h.log, h.trigger, h.attempt, h.elapsed⟩

theorem Tells.afterMessage (h : Tells s events a) : Notes s a.afterMessage := by
  rcases a.afterMessage_cases with ⟨fires, he⟩ | ⟨_, he⟩
  · rw [h.trigger, h.elapsed] at fires
    rw [he]
    refine .firing h.own ?_ fires ?_
    · rw [← h.attempt, ← h.elapsed, ← h.trigger, ← h.log]
      rfl
    · rw [← h.trigger]
      rfl
  · rw [he]
    exact .quietly h.own h.log h.trigger

theorem Tells.acknowledge (h : Tells s events a) (id : UInt64) : Notes s (a.acknowledge id) := by
  rw [Session.acknowledge]
  split
  · exact h.afterMessage
  · split
    · exact ((h.withLayer _).note rfl).afterMessage
    · exact ((h.withLayer _).note rfl).afterMessage
    · split
      · exact .quietly h.own h.log h.trigger
      · exact (h.withLayer _).afterMessage

/-- Everything a move of the read loop can note. -/
theorem notes_of_readStep (h : s.readStep = some s') : Notes s s' := by
  cases reads_of_readStep h with
  | stopped | closed | failed | moved => exact Tells.notes (tells_of_same rfl rfl rfl rfl)
  | @ignored e rest =>
      have polled : Tells s [] { s with inbound := rest } := tells_of_same rfl rfl rfl rfl
      exact (polled.note rfl).notes
  | @data m rest _ receiving calm arrival =>
      have counted : Tells s [] { s with inbound := rest, count := s.count + 1 } :=
        tells_of_same rfl rfl rfl rfl
      rw [readStep_eq_answered receiving calm, arrival] at h
      rw [← Option.some.inj h]
      exact (counted.note rfl).acknowledge m.id
  | @queued a =>
      have enqueued : Tells s [] (s.enqueue a) := tells_of_same rfl rfl rfl rfl
      exact (enqueued.note rfl).afterMessage
  | refused =>
      have closed : Tells s [] { s with acksOpen := false } := tells_of_same rfl rfl rfl rfl
      exact (closed.note rfl).afterMessage

end Noting

theorem writeStep_eq_some {s s' : Session} (h : s.writeStep = some s') :
    ∃ w events, WriteLoop.Step s.writer s.now w events ∧
      s' = { s with writer := w }.note events := by
  cases hw : s.writer.step s.now with
  | none => simp [writeStep, hw] at h
  | some r =>
      simp only [writeStep, hw, Option.some.injEq] at h
      exact ⟨r.1, r.2, WriteLoop.step_of_eq_some hw, h.symm⟩

theorem writeStep_eq_none {s : Session} (h : s.writeStep = none) :
    WriteLoop.Waits s.writer s.now := by
  cases hw : s.writer.step s.now with
  | none => exact WriteLoop.waits_of_step_eq_none hw
  | some r => simp [writeStep, hw] at h

/-- A change of the session passes through the move of the write loop, if it leaves the loop and the
clock alone and notes what the loop notes. -/
theorem writeStep_map (g : Session → Session) {s : Session} (writer : (g s).writer = s.writer)
    (now : (g s).now = s.now)
    (noted : ∀ w events, WriteLoop.Step s.writer s.now w events →
      { g s with writer := w }.note events = g ({ s with writer := w }.note events)) :
    (g s).writeStep = s.writeStep.map g := by
  have same : (g s).writer.step (g s).now = s.writer.step s.now := by rw [writer, now]
  cases hw : s.writer.step s.now with
  | none => simp only [writeStep, same, hw, Option.map_none]
  | some r =>
      have move := noted r.1 r.2 (WriteLoop.step_of_eq_some hw)
      simp only [writeStep, same, hw, Option.map_some]
      exact congrArg some move

/-- Both loops have to wait. -/
def Quiet (s : Session) : Prop :=
  s.readStep = none ∧ s.writeStep = none

/-- One repetition of a run. -/
inductive Next (limit : Nat) (s : Session) : Session → Prop
  | read {s' : Session} (turn : Turn) (move : s.readStep = some s') :
      Next limit s { s' with turn := turn }
  | write {s' : Session} (turn : Turn) (move : s.writeStep = some s') :
      Next limit s { s' with turn := turn }
  | settle (quiet : s.Quiet) (running : s.isFinished = false) (early : s.now < limit)
      (due : s.unsettled = true) : Next limit s s.settle
  | advance (quiet : s.Quiet) (running : s.isFinished = false) (early : s.now < limit)
      (idle : s.unsettled = false) : Next limit s (s.advance limit)

theorem step_eq_some {s s' : Session} (h : s.step = some s') :
    ∃ s₁ turn, (s.readStep = some s₁ ∨ s.writeStep = some s₁) ∧
      s' = { s₁ with turn := turn } := by
  cases ht : s.turn <;> cases hr : s.readStep <;> cases hw : s.writeStep <;>
    simp only [step, ht, hr, hw, Option.map_some, Option.map_none, Option.some.injEq,
      reduceCtorEq] at h <;> subst h
  · exact ⟨_, .writer, Or.inr rfl, rfl⟩
  · exact ⟨_, _, Or.inl rfl, rfl⟩
  · exact ⟨_, _, Or.inl rfl, rfl⟩
  · exact ⟨_, _, Or.inr rfl, rfl⟩
  · exact ⟨_, .reader, Or.inl rfl, rfl⟩
  · exact ⟨_, _, Or.inr rfl, rfl⟩

theorem step_eq_none {s : Session} (h : s.step = none) : s.Quiet := by
  cases ht : s.turn <;> cases hr : s.readStep <;> cases hw : s.writeStep <;>
    simp only [step, ht, hr, hw, Option.map_some, Option.map_none, reduceCtorEq] at h <;>
    exact ⟨hr, hw⟩

/-- A change of the session that passes through the moves of both loops passes through the moves of
the session, if it leaves the turn alone. -/
theorem step_map (g : Session → Session) {s : Session}
    (turn : ∀ s turn, g { s with turn := turn } = { g s with turn := turn })
    (read : (g s).readStep = s.readStep.map g) (write : (g s).writeStep = s.writeStep.map g) :
    (g s).step = s.step.map g := by
  have same := congrArg Session.turn (turn s s.turn)
  cases ht : s.turn with
  | reader =>
      have ht' : (g s).turn = .reader := same.trans ht
      simp only [step, ht, ht', read, write]
      cases s.readStep with
      | some s' => rfl
      | none =>
          cases s.writeStep with
          | some s' => exact congrArg some (turn s' .writer).symm
          | none => rfl
  | writer =>
      have ht' : (g s).turn = .writer := same.trans ht
      simp only [step, ht, ht', read, write]
      cases s.writeStep with
      | some s' => rfl
      | none =>
          cases s.readStep with
          | some s' => exact congrArg some (turn s' .reader).symm
          | none => rfl

/-- Everything a repetition can do. -/
theorem next_of_eq_some {limit : Nat} {s s' : Session} (h : s.next limit = some s') :
    Next limit s s' := by
  cases hs : s.step with
  | some s₁ =>
      simp only [next, hs, Option.some.injEq] at h
      obtain ⟨s₂, turn, hm, he⟩ := step_eq_some hs
      subst h
      subst he
      rcases hm with hm | hm
      · exact .read turn hm
      · exact .write turn hm
  | none =>
      have hq := step_eq_none hs
      simp only [next, hs, Bool.or_eq_true, decide_eq_true_eq] at h
      split at h
      · simp at h
      · rename_i hn
        rw [not_or, Bool.not_eq_true, Nat.not_le] at hn
        cases hu : s.unsettled with
        | true =>
            simp only [hu, if_true, Option.some.injEq] at h
            subst h
            exact .settle hq hn.1 hn.2 hu
        | false =>
            simp only [hu, Bool.false_eq_true, if_false, Option.some.injEq] at h
            subst h
            exact .advance hq hn.1 hn.2 hu

/-- Where both loops wait and there is time left, the surroundings have their turn. -/
theorem next_settle {limit : Nat} {s : Session} (quiet : s.Quiet) (running : s.isFinished = false)
    (early : s.now < limit) (due : s.unsettled = true) : s.next limit = some s.settle := by
  have waits : s.step = none := by
    cases ht : s.turn <;> simp [step, ht, quiet.1, quiet.2]
  have going : (s.isFinished || decide (limit ≤ s.now)) = false := by simp [running, early]
  simp only [next, waits, going, due, Bool.false_eq_true, if_false, if_true]

theorem next_advance {limit : Nat} {s : Session} (quiet : s.Quiet) (running : s.isFinished = false)
    (early : s.now < limit) (idle : s.unsettled = false) :
    s.next limit = some (s.advance limit) := by
  have waits : s.step = none := by
    cases ht : s.turn <;> simp [step, ht, quiet.1, quiet.2]
  have going : (s.isFinished || decide (limit ≤ s.now)) = false := by simp [running, early]
  simp only [next, waits, going, idle, Bool.false_eq_true, if_false]

/-- A run is over when both loops have ended, or wait at the limit of the clock. -/
theorem over_of_next_eq_none {limit : Nat} {s : Session} (h : s.next limit = none) :
    s.Quiet ∧ (s.isFinished = true ∨ limit ≤ s.now) := by
  cases hs : s.step with
  | some s₁ => simp [next, hs] at h
  | none =>
      refine ⟨step_eq_none hs, ?_⟩
      simp only [next, hs, Bool.or_eq_true, decide_eq_true_eq] at h
      split at h
      · assumption
      · split at h <;> simp at h

theorem next_eq_none {limit : Nat} {s : Session} (quiet : s.Quiet)
    (done : s.isFinished = true ∨ limit ≤ s.now) : s.next limit = none := by
  have waits : s.step = none := by
    cases ht : s.turn <;> simp [step, ht, quiet.1, quiet.2]
  have done' : (s.isFinished || decide (limit ≤ s.now)) = true := by simpa using done
  simp only [next, waits, done', if_true]

theorem isEnded_iff (w : WriteLoop) : w.isEnded = true ↔ w.phase = .ended := by
  cases hp : w.phase <;> simp [WriteLoop.isEnded, hp]

/-- A report is there once both loops have ended, and says what each of them counted. -/
theorem report_eq_some {s : Session} {r : Report} (h : s.report? = some r) :
    ∃ t, s.reading = .ended t ∧ s.writer.phase = .ended ∧
      r = { attempt := s.attempt
            outcome := s.outcome t
            messageCount := s.count
            acksSent := s.writer.sent
            drops := s.tally.dropped
            duplicates := s.tally.duplicates
            elapsed := s.elapsed
            detail := t.detail? } := by
  cases hr : s.reading with
  | receiving => simp [report?, hr] at h
  | queueing a => simp [report?, hr] at h
  | ended t =>
      cases hw : s.writer.isEnded with
      | false => simp [report?, hr, hw] at h
      | true =>
          simp only [report?, hr, hw, if_true, Option.some.injEq] at h
          exact ⟨t, rfl, (isEnded_iff _).mp hw, h.symm⟩

theorem isFinished_iff (s : Session) :
    s.isFinished = true ↔ (∃ t, s.reading = .ended t) ∧ s.writer.phase = .ended := by
  cases hr : s.reading <;> simp [isFinished, hr, isEnded_iff]

end Session

end DuplexStream
