import DuplexStream.Proofs.Loss.Verdicts
import DuplexStream.Proofs.Session.Interleaving

/-!
# The way of an acknowledgement

An acknowledgement is produced by the layer, waits with the read loop, then in the queue and in the
hand of the write loop, and is written to the peer. It can be given up at each of these places.
`Session.InOrder` is the invariant over all of them at once: what has been written, followed by what
is still on its way, is the beginning of what the layer has produced, and is all of it as long as
neither loop has ended. What has been written is what the peer has taken or finds in its queue,
until it hangs up and the queue is dropped (`Session.Passed`).
-/

namespace DuplexStream

/-- The id of a line that sends a data message. -/
def ScriptStep.id? : ScriptStep → Option UInt64
  | .send (.data m) => some m.id
  | _ => none

/-- The ids of the data messages of a script, in order. -/
def ScriptStep.ids (steps : List ScriptStep) : List UInt64 :=
  steps.filterMap ScriptStep.id?

namespace ScriptStep

variable {rest : List ScriptStep}

@[simp] theorem ids_nil : ids [] = [] := rfl

@[simp] theorem ids_wait (d : Duration) : ids (.wait d :: rest) = ids rest := rfl

@[simp] theorem ids_data (m : Message) : ids (.send (.data m) :: rest) = m.id :: ids rest := rfl

theorem ids_bare {e : Envelope} (bare : e.data? = none) : ids (.send e :: rest) = ids rest := by
  cases e with
  | data m => simp [Envelope.data?] at bare
  | empty => rfl
  | ack a => rfl

end ScriptStep

namespace WriteLoop

/-- What the write loop still holds. What a loop that has ended left in its queue reaches nobody. -/
def held (w : WriteLoop) : List UInt64 :=
  match w.phase with
  | .polling _ => w.queue.items
  | .sending a => a :: w.queue.items
  | .ended => []

/-- What has been written, followed by what the write loop holds. -/
def handed (w : WriteLoop) : List UInt64 :=
  w.written ++ w.held

/-- A peer has taken, or finds in its queue, what was written to it before and by this loop. It may
have missed the end of that if it has hung up. -/
structure Passed (earlier taken : List UInt64) (w : WriteLoop) : Prop where
  missing : taken ++ w.outbound.items <+: earlier ++ w.written
  all : w.outbound.listening = true → taken ++ w.outbound.items = earlier ++ w.written

section Steps

variable {w w' : WriteLoop} {now : Nat} {events : List Event}

theorem Step.live (h : Step w now w' events) : w.phase ≠ .ended := by
  cases h <;> simp_all

theorem Step.handed_eq (h : Step w now w' events) (live : w'.phase ≠ .ended) :
    w'.handed = w.handed := by
  cases h with
  | took polling queued => simp [handed, held, polling, queued]
  | repolled polling => simp [handed, held, repoll, polling]
  | sent sending => simp [handed, held, repoll, sending]
  | drained => exact absurd rfl live
  | gaveUp => exact absurd rfl live
  | refused => exact absurd rfl live
  | abandoned => exact absurd rfl live

theorem Step.handed_prefix (h : Step w now w' events) : w'.handed <+: w.handed := by
  by_cases live : w'.phase = .ended
  · have same : w'.written = w.written := by
      cases h <;> simp_all [repoll, finish]
    simp [handed, held, live, same]
  · exact (h.handed_eq live) ▸ List.prefix_refl _

/-- What the loop counts as sent goes onto the record and into the queue towards a peer that is
there. -/
theorem Step.sent_eq (h : Step w now w' events) :
    ∃ more, w'.sent = w.sent + more.length ∧ w'.written = w.written ++ more ∧
      w'.outbound.items = w.outbound.items ++ more ∧
      w'.outbound.listening = w.outbound.listening ∧
      (w.outbound.listening = false → more = []) := by
  cases h with
  | sent sending listening => exact ⟨[_], rfl, rfl, rfl, rfl, by simp [listening]⟩
  | _ => exact ⟨[], by simp [repoll, finish, Queue.dropSender]⟩

theorem Step.listening (h : Step w now w' events) (live : w'.phase ≠ .ended) :
    w'.queue.listening = w.queue.listening := by
  cases h <;> first | rfl | exact absurd rfl live

end Steps

namespace Passed

variable {w w' : WriteLoop} {now : Nat} {events : List Event} {earlier taken : List UInt64}

theorem congr (passed : Passed earlier taken w) (written : w'.written = w.written)
    (outbound : w'.outbound.items = w.outbound.items)
    (listening : w'.outbound.listening = w.outbound.listening) : Passed earlier taken w' := by
  constructor
  · rw [written, outbound]
    exact passed.missing
  · rw [written, outbound, listening]
    exact passed.all

theorem step (passed : Passed earlier taken w) (move : Step w now w' events) :
    Passed earlier taken w' := by
  obtain ⟨more, -, written, outbound, listening, unheard⟩ := move.sent_eq
  cases hears : w.outbound.listening with
  | true =>
      have all : taken ++ w'.outbound.items = earlier ++ w'.written := by
        rw [written, outbound, ← List.append_assoc, ← List.append_assoc, passed.all hears]
      exact ⟨all ▸ List.prefix_refl _, fun _ => all⟩
  | false =>
      rw [unheard hears, List.append_nil] at written outbound
      exact passed.congr written outbound listening

/-- The peer takes the first acknowledgements on their way to it. -/
theorem take (passed : Passed earlier taken w) (n : Nat) :
    Passed earlier (taken ++ w.outbound.items.take n)
      { w with outbound := { w.outbound with items := w.outbound.items.drop n } } := by
  constructor
  · rw [List.append_assoc, List.take_append_drop]
    exact passed.missing
  · rw [List.append_assoc, List.take_append_drop]
    exact passed.all

/-- The peer hangs up. -/
theorem hangUp (passed : Passed earlier taken w) :
    Passed earlier taken { w with outbound := w.outbound.hangUp } where
  missing := by
    rw [Queue.hangUp, List.append_nil]
    exact (List.prefix_append _ _).trans passed.missing
  all := nofun

end Passed

/-- An acknowledgement that is queued stands behind everything else. -/
theorem held_queue_append (w : WriteLoop) (a : UInt64) (live : w.phase ≠ .ended) :
    ({ w with queue := { w.queue with items := w.queue.items ++ [a] } } : WriteLoop).held =
      w.held ++ [a] := by
  cases hp : w.phase with
  | polling => simp [held, hp]
  | sending => simp [held, hp]
  | ended => exact absurd hp live

end WriteLoop

namespace Session

/-- The ids of the data messages received so far, in order. -/
def delivered (s : Session) : List UInt64 :=
  s.log.reverse.filterMap Event.receivedId?

/-- The acknowledgements that have reached the stream to the peer, in order. -/
def written (s : Session) : List UInt64 :=
  s.writer.written

/-- What has been written, followed by what the write loop holds. -/
def handed (s : Session) : List UInt64 :=
  s.writer.handed

/-- What has been written is what the peer has taken or finds in its queue. It misses the end of
that only once it has hung up. -/
abbrev Passed (s : Session) : Prop :=
  s.writer.Passed [] s.peer.taken

/-- The acknowledgement that the read loop is queueing. -/
def pending (s : Session) : List UInt64 :=
  match s.reading with
  | .queueing a => [a]
  | _ => []

/-- The session with draws from another source. -/
def drawingFrom (s : Session) (g : Seeded) : Session :=
  { s with layer := s.layer.map fun l => { l with generator := g } }

@[simp] theorem delivered_note (s : Session) (events : List Event) :
    (s.note events).delivered = s.delivered ++ events.filterMap Event.receivedId? := by
  simp [delivered, note]

theorem delivered_note_of_silent (s : Session) {events : List Event}
    (silent : events.filterMap Event.receivedId? = []) :
    (s.note events).delivered = s.delivered := by
  rw [delivered_note, silent, List.append_nil]

theorem written_prefix_handed (s : Session) : s.written <+: s.handed :=
  List.prefix_append _ _

section Layers

/-- The acknowledgements that the layer of a session, if it has one, produces on deliveries. -/
def produced (l₀ : Option (Layer Seeded)) (ids : List UInt64) : List UInt64 :=
  (l₀.map fun l => (l.deliverAll ids).1).getD []

/-- The layer of a session after deliveries. -/
def layerAfter (l₀ : Option (Layer Seeded)) (ids : List UInt64) : Option (Layer Seeded) :=
  l₀.map fun l => (l.deliverAll ids).2

theorem layerAfter_concat (l₀ : Option (Layer Seeded)) (ids : List UInt64) (id : UInt64) :
    layerAfter l₀ (ids ++ [id]) = (layerAfter l₀ ids).map fun l => (l.deliver id).2 := by
  cases l₀ <;> simp [layerAfter, Layer.deliverAll_concat]

theorem produced_concat (l₀ : Option (Layer Seeded)) (ids : List UInt64) (id : UInt64) :
    produced l₀ (ids ++ [id]) = produced l₀ ids ++
      ((layerAfter l₀ ids).map fun l => Layer.ackOf (l.deliver id).1 id).getD [] := by
  cases l₀ <;> simp [produced, layerAfter, Layer.deliverAll_concat]

end Layers

/-- What the parts of a session know of one another, whatever the read loop is doing. -/
structure Coherent (l₀ : Option (Layer Seeded)) (script : List UInt64) (s : Session) : Prop where
  played : s.delivered ++ ScriptStep.ids s.inbound.steps = script
  layer : s.layer = layerAfter l₀ s.delivered
  count : s.count = s.delivered.length
  sent : s.writer.sent = s.written.length
  listening : s.writer.phase ≠ .ended → s.writer.queue.listening = true
  wanted : s.writer.phase ≠ .ended → s.acksOpen = true
  handed_prefix : s.handed <+: produced l₀ s.delivered

/-- Nothing is lost between the layer and the peer while both loops go on. Once the read loop has
ended, what is lost lies beyond the first `kept` acknowledgements. -/
structure InOrder (l₀ : Option (Layer Seeded)) (script : List UInt64) (kept : Nat) (s : Session) :
    Prop extends Coherent l₀ script s where
  complete : s.writer.phase ≠ .ended → (∀ t, s.reading ≠ .ended t) →
    s.handed ++ s.pending = produced l₀ s.delivered
  atEnd : ∀ t, s.reading = .ended t →
    min s.handed.length kept = min (produced l₀ s.delivered).length kept

variable {l₀ : Option (Layer Seeded)} {script : List UInt64} {kept : Nat} {s s' : Session}

/-- Only some parts of a session matter. -/
theorem Coherent.congr (h : Coherent l₀ script s) (log : s'.delivered = s.delivered)
    (inbound : ScriptStep.ids s'.inbound.steps = ScriptStep.ids s.inbound.steps)
    (layer : s'.layer = s.layer) (count : s'.count = s.count) (writer : s'.writer = s.writer)
    (acksOpen : s'.acksOpen = s.acksOpen) :
    Coherent l₀ script s' where
  played := by rw [log, inbound, h.played]
  layer := by rw [layer, log, h.layer]
  count := by rw [count, log, h.count]
  sent := by rw [written, writer, h.sent, written]
  listening := by rw [writer]; exact h.listening
  wanted := by rw [writer, acksOpen]; exact h.wanted
  handed_prefix := by rw [handed, writer, log]; exact h.handed_prefix

theorem Coherent.note (h : Coherent l₀ script s) {events : List Event}
    (silent : events.filterMap Event.receivedId? = []) : Coherent l₀ script (s.note events) :=
  h.congr (delivered_note_of_silent s silent) rfl rfl rfl rfl rfl

theorem Coherent.withInbound (h : Coherent l₀ script s) {rest : Inbound}
    (same : ScriptStep.ids rest.steps = ScriptStep.ids s.inbound.steps) :
    Coherent l₀ script { s with inbound := rest } :=
  h.congr rfl same rfl rfl rfl rfl

theorem Coherent.requestCancel (h : Coherent l₀ script s) :
    Coherent l₀ script s.requestCancel :=
  h.congr rfl rfl rfl rfl rfl rfl

/-- When the read loop ends, everything has been handed over, or as much as is to be kept. -/
theorem Coherent.endReading (h : Coherent l₀ script s) (t : Ending)
    (safe : kept ≤ s.handed.length ∨ s.handed = produced l₀ s.delivered) :
    InOrder l₀ script kept (s.endReading t) where
  played := h.played
  layer := h.layer
  count := h.count
  sent := h.sent
  listening := h.listening
  wanted := h.wanted
  handed_prefix := h.handed_prefix
  complete := fun _ live => absurd rfl (live t)
  atEnd := by
    intro _ _
    change min s.handed.length kept = min (produced l₀ s.delivered).length kept
    rcases safe with safe | safe
    · have := h.handed_prefix.length_le
      omega
    · rw [safe]

/-- A write loop that has ended keeps nothing. -/
def Keeps (kept : Nat) (w : WriteLoop) : Prop :=
  w.phase = .ended → kept = 0

/-- At the end of a message everything produced so far is handed over, or given up for good. -/
theorem Coherent.afterMessage (h : Coherent l₀ script s) (keeps : Keeps kept s.writer)
    (all : s.writer.phase ≠ .ended → s.handed = produced l₀ s.delivered) :
    InOrder l₀ script kept s.afterMessage := by
  rcases s.afterMessage_cases with ⟨_, he⟩ | ⟨_, he⟩
  · have fired : Coherent l₀ script { s with trigger := { s.trigger with fired := true } } :=
      h.congr rfl rfl rfl rfl rfl rfl
    rw [he]
    have hlog : (s.note [.autoCancelled s.attempt s.elapsed s.trigger.delay]).delivered =
        s.delivered := delivered_note_of_silent s rfl
    refine (fired.note rfl).requestCancel.endReading _ ?_
    by_cases live : s.writer.phase = .ended
    · exact Or.inl (keeps live ▸ Nat.zero_le _)
    · exact Or.inr ((all live).trans (congrArg (produced l₀) hlog.symm))
  · rw [he]
    refine ⟨h.congr rfl rfl rfl rfl rfl rfl, fun live _ => ?_, nofun⟩
    change s.handed ++ [] = produced l₀ s.delivered
    rw [List.append_nil, all live]

/-- A message is being taken in: it is noted and counted, and the layer has decided about it. -/
structure Delivers (s : Session) (id : UInt64) (s' : Session) : Prop where
  log : s'.delivered = s.delivered ++ [id]
  inbound : ScriptStep.ids s.inbound.steps = id :: ScriptStep.ids s'.inbound.steps
  layer : s'.layer = s.layer.map fun l => (l.deliver id).2
  count : s'.count = s.count + 1
  writer : s'.writer = s.writer
  acksOpen : s'.acksOpen = s.acksOpen

/-- The acknowledgement that the layer of a session, if it has one, gives to a message. -/
def ackFor (s : Session) (id : UInt64) : List UInt64 :=
  (s.layer.map fun l => Layer.ackOf (l.deliver id).1 id).getD []

theorem Delivers.coherent {id : UInt64} (d : Delivers s id s') (h : Coherent l₀ script s) :
    Coherent l₀ script s' where
  played := by rw [d.log, List.append_assoc, List.singleton_append, ← d.inbound, h.played]
  layer := by rw [d.layer, d.log, layerAfter_concat, h.layer]
  count := by rw [d.count, d.log, List.length_append, List.length_singleton, h.count]
  sent := by rw [written, d.writer, h.sent, written]
  listening := by rw [d.writer]; exact h.listening
  wanted := by rw [d.writer, d.acksOpen]; exact h.wanted
  handed_prefix := by
    rw [handed, d.writer, d.log, produced_concat]
    exact h.handed_prefix.trans (List.prefix_append _ _)

/-- What the layer produces is new at the end. -/
theorem Delivers.produced {id : UInt64} (d : Delivers s id s') (h : Coherent l₀ script s) :
    produced l₀ s'.delivered = produced l₀ s.delivered ++ s.ackFor id := by
  rw [d.log, produced_concat, ackFor, h.layer]

theorem Delivers.handed {id : UInt64} (d : Delivers s id s') : s'.handed = s.handed := by
  rw [Session.handed, d.writer, Session.handed]

theorem InOrder.all_handed (h : InOrder l₀ script kept s) (receiving : s.reading = .receiving)
    (live : s.writer.phase ≠ .ended) : s.handed = produced l₀ s.delivered := by
  simpa [pending, receiving] using h.complete live (by simp [receiving])

/-- A message without an acknowledgement, or with one that nobody takes any more. -/
theorem Delivers.afterMessage {id : UInt64} (d : Delivers s id s') (h : InOrder l₀ script kept s)
    (keeps : Keeps kept s.writer) (receiving : s.reading = .receiving)
    (unanswered : s.writer.phase ≠ .ended → s.ackFor id = []) :
    InOrder l₀ script kept s'.afterMessage := by
  refine (d.coherent h.toCoherent).afterMessage (d.writer ▸ keeps) fun live => ?_
  rw [d.writer] at live
  rw [d.handed, d.produced h.toCoherent, unanswered live, List.append_nil,
    h.all_handed receiving live]

/-- What the layer's verdict leads to keeps the order. -/
theorem InOrder.acknowledges (h : InOrder l₀ script kept s) (keeps : Keeps kept s.writer)
    (receiving : s.reading = .receiving) {m : Message} {rest : Inbound}
    (steps : s.inbound.steps = .send (.data m) :: rest.steps)
    (verdict : Acknowledges ({ s with inbound := rest, count := s.count + 1 }.note
      [.received s.attempt m.id m.text]) m.id s') : InOrder l₀ script kept s' := by
  have hids : ScriptStep.ids s.inbound.steps = m.id :: ScriptStep.ids rest.steps := by
    rw [steps, ScriptStep.ids_data]
  have hlog : (s.note [.received s.attempt m.id m.text]).delivered = s.delivered ++ [m.id] := by
    simp [Event.receivedId?]
  cases verdict with
  | plain layer =>
      have hlayer : s.layer = none := layer
      have d : Delivers s m.id ({ s with inbound := rest, count := s.count + 1 }.note
          [.received s.attempt m.id m.text]) :=
        ⟨hlog, hids, by simp [Session.note, hlayer], rfl, rfl, rfl⟩
      exact d.afterMessage h keeps receiving fun _ => by simp [ackFor, hlayer]
  | @passed l l' v e layer verdict withheld silent =>
      have hlayer : s.layer = some l := layer
      have hlog' : ((s.note [.received s.attempt m.id m.text]).note [e]).delivered =
          s.delivered ++ [m.id] := by
        rw [delivered_note, hlog]
        simp [silent]
      have d : Delivers s m.id
          (({ s with inbound := rest, count := s.count + 1, layer := some l' }.note
          [.received s.attempt m.id m.text]).note [e]) :=
        ⟨hlog', hids, by simp [Session.note, hlayer, verdict], rfl, rfl, rfl⟩
      refine d.afterMessage h keeps receiving fun _ => ?_
      simp [ackFor, hlayer, verdict, Layer.ackOf, withheld]
  | @queueing l l' layer verdict =>
      have hlayer : s.layer = some l := layer
      have hack : s.ackFor m.id = [m.id] := by simp [ackFor, hlayer, verdict, Layer.ackOf]
      have d : Delivers s m.id { ({ s with inbound := rest, count := s.count + 1 }.note
          [.received s.attempt m.id m.text]) with layer := some l', reading := .queueing m.id } :=
        ⟨hlog, hids, by simp [hlayer, verdict], rfl, rfl, rfl⟩
      refine ⟨d.coherent h.toCoherent, fun live _ => ?_, by simp⟩
      rw [d.handed, d.produced h.toCoherent, hack, h.all_handed receiving live]
      rfl
  | @unwanted l l' layer verdict unwanted =>
      have hlayer : s.layer = some l := layer
      have d : Delivers s m.id { ({ s with inbound := rest, count := s.count + 1 }.note
          [.received s.attempt m.id m.text]) with layer := some l' } :=
        ⟨hlog, hids, by simp [hlayer, verdict], rfl, rfl, rfl⟩
      refine d.afterMessage h keeps receiving fun live => ?_
      have hopen := h.wanted live
      simp [Session.note, hopen] at unwanted

/-- What the read loop queues stands behind everything that the write loop holds. -/
theorem Coherent.queued (h : Coherent l₀ script s) (keeps : Keeps kept s.writer) (a : UInt64)
    (all : s.writer.phase ≠ .ended → s.handed ++ [a] = produced l₀ s.delivered) :
    InOrder l₀ script kept (((s.enqueue a).note [.queuedAck s.attempt a]).afterMessage) := by
  have behind (live : s.writer.phase ≠ .ended) :
      (s.enqueue a).handed = produced l₀ s.delivered := by
    rw [← all live]
    simp [enqueue, handed, WriteLoop.handed, WriteLoop.held_queue_append _ _ live]
  have hc : Coherent l₀ script (s.enqueue a) := by
    refine ⟨h.played, h.layer, h.count, h.sent, h.listening, h.wanted, ?_⟩
    by_cases live : s.writer.phase = .ended
    · have hp := h.handed_prefix
      simp only [handed, WriteLoop.handed, WriteLoop.held, live] at hp
      simp only [enqueue, handed, WriteLoop.handed, WriteLoop.held, live]
      exact hp
    · exact behind live ▸ List.prefix_refl _
  refine (hc.note rfl).afterMessage keeps fun live => (behind live).trans ?_
  rw [delivered_note_of_silent _ rfl]
  rfl

/-- A move of the read loop keeps the order. An acknowledgement that is being queued may be given up
when enough has been handed over. -/
theorem InOrder.reads (h : InOrder l₀ script kept s) (keeps : Keeps kept s.writer)
    (backed : ∀ a, s.reading = .queueing a → s.stop? = none ∨ kept ≤ s.handed.length)
    (move : Reads s s') : InOrder l₀ script kept s' := by
  have polls := Inbound.polls_poll s.inbound s.now
  have safe (receiving : s.reading = .receiving) :
      kept ≤ s.handed.length ∨ s.handed = produced l₀ s.delivered := by
    by_cases live : s.writer.phase = .ended
    · exact Or.inl (keeps live ▸ Nat.zero_le _)
    · exact Or.inr (h.all_handed receiving live)
  cases move with
  | @stopped t live stop =>
      refine h.endReading t ?_
      cases hr : s.reading with
      | receiving => exact safe hr
      | queueing a =>
          rcases backed a hr with calm | full
          · simp [calm] at stop
          · exact Or.inl full
      | ended t => exact absurd hr (live t)
  | closed receiving => exact h.endReading _ (safe receiving)
  | @failed st rest receiving calm arrival =>
      rw [arrival] at polls
      cases polls with
      | failed steps => exact (h.withInbound (by simp [steps])).endReading _ (safe receiving)
  | @moved rest receiving calm arrival =>
      have same : ScriptStep.ids rest.steps = ScriptStep.ids s.inbound.steps := by
        rw [arrival] at polls
        cases polls with
        | started => rfl
        | woke steps => simp [steps]
      exact ⟨h.withInbound same, h.complete, h.atEnd⟩
  | @ignored e rest receiving calm arrival bare =>
      have same : ScriptStep.ids rest.steps = ScriptStep.ids s.inbound.steps := by
        rw [arrival] at polls
        cases polls with
        | item steps => rw [steps, ScriptStep.ids_bare bare]
      have hlog : (s.note [.ignoredEnvelope s.attempt]).delivered = s.delivered :=
        delivered_note_of_silent s rfl
      refine ⟨(h.withInbound same).note rfl, fun live going => ?_, fun t ended => ?_⟩
      · exact (h.complete live going).trans (congrArg (produced l₀) hlog.symm)
      · have hr : s.reading = .ended t := ended
        simp [receiving] at hr
  | @data m rest _ receiving calm arrival verdict =>
      rw [arrival] at polls
      cases polls with
      | item steps => exact h.acknowledges keeps receiving steps verdict
  | @queued a queueing calm listening room =>
      have all : s.writer.phase ≠ .ended → s.handed ++ [a] = produced l₀ s.delivered := by
        intro live
        simpa [pending, queueing] using h.complete live (by simp [queueing])
      exact h.queued keeps a all
  | @refused a queueing calm gone =>
      have ended : s.writer.phase = .ended := by
        by_contra live
        simp [h.listening live] at gone
      have hc : Coherent l₀ script { s with acksOpen := false } :=
        { h with wanted := fun live => absurd ended live }
      exact (hc.note rfl).afterMessage keeps fun live => absurd ended live

/-- A move of the write loop keeps the order, if it loses nothing that is to be kept. -/
theorem InOrder.writes (h : InOrder l₀ script kept s) {w : WriteLoop} {events : List Event}
    (move : WriteLoop.Step s.writer s.now w events)
    (safe : min (Session.handed { s with writer := w }).length kept = min s.handed.length kept) :
    InOrder l₀ script kept ({ s with writer := w }.note events) := by
  have hlog : ({ s with writer := w }.note events).delivered = s.delivered := by
    rw [delivered_note_of_silent _ move.receivedIds]
    rfl
  obtain ⟨more, hsent, hwritten, -⟩ := move.sent_eq
  have hbegin : Session.handed { s with writer := w } <+: s.handed := move.handed_prefix
  refine ⟨⟨?_, ?_, ?_, ?_, ?_, ?_, ?_⟩, ?_, fun t ended => ?_⟩
  · rw [hlog]
    exact h.played
  · rw [hlog]
    exact h.layer
  · rw [hlog]
    exact h.count
  · have counted : s.writer.sent = s.writer.written.length := h.sent
    simp only [Session.note, written, hwritten, hsent, counted, List.length_append]
  · intro live
    exact (move.listening live).trans (h.listening move.live)
  · exact fun _ => h.wanted move.live
  · rw [hlog]
    exact hbegin.trans h.handed_prefix
  · intro live going
    rw [hlog, ← h.complete move.live going]
    simp [handed, pending, Session.note, move.handed_eq live]
  · rw [hlog, ← h.atEnd t ended]
    exact safe

/-- Every move keeps the order, whatever comes next. -/
theorem InOrder.move (h : InOrder l₀ script 0 s) (move : Move s s') : InOrder l₀ script 0 s' := by
  have atEnd (s : Session) (t : Ending) (_ : s.reading = .ended t) :
      min s.handed.length 0 = min (produced l₀ s.delivered).length 0 := by
    rw [Nat.min_zero, Nat.min_zero]
  cases move with
  | read move =>
      exact h.reads (fun _ => rfl) (fun _ _ => Or.inr (Nat.zero_le _)) (reads_of_readStep move)
  | write move =>
      obtain ⟨w, events, hw, rfl⟩ := writeStep_eq_some move
      exact h.writes hw (by rw [Nat.min_zero, Nat.min_zero])
  | cancel => exact ⟨h.requestCancel, h.complete, atEnd _⟩
  | shutDown => exact ⟨h.congr rfl rfl rfl rfl rfl rfl, h.complete, atEnd _⟩
  | pass => exact ⟨h.congr rfl rfl rfl rfl rfl rfl, h.complete, atEnd _⟩
  | plan => exact ⟨h.congr rfl rfl rfl rfl rfl rfl, h.complete, atEnd _⟩
  | hangUp | take =>
      exact ⟨⟨h.played, h.layer, h.count, h.sent, h.listening, h.wanted, h.handed_prefix⟩,
        h.complete, atEnd _⟩

theorem InOrder.reaches (h : InOrder l₀ script 0 s) (hr : Reaches s s') : InOrder l₀ script 0 s' :=
  hr.keeps (fun _ _ => InOrder.move) h

end Session

end DuplexStream
