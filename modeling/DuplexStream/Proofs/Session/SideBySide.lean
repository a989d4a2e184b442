import DuplexStream.Proofs.Session.Moves

/-!
# Two read loops side by side

Many results compare a session with a changed copy of it: at another time, with another delay, on a
stream of which less is seen. What such a change owes for the two read loops to go on side by side
is said once (`Session.SideBySide`), and the case analysis of the loop is made here, once for all
changes (`Session.SideBySide.readStep`). Only the answer of the stream is left to each change, since
some of them change the answer.
-/

namespace DuplexStream.Session

/-- The session that has taken a message from its stream, about which the layer decides next. -/
def taking (s : Session) (m : Message) (rest : Inbound) : Session :=
  { s with inbound := rest, count := s.count + 1 }.note [.received s.attempt m.id m.text]

/-- The session when its trigger has fired. -/
def fire (s : Session) : Session :=
  (({ s with trigger := { s.trigger with fired := true } }.note
    [.autoCancelled s.attempt s.elapsed s.trigger.delay]).requestCancel).endReading .localCancel

/-- A change of the session passes through the end of a message, if the trigger finds the same and
if the change passes through the firing and through reading on. -/
theorem afterMessage_map {s : Session} (g : Session → Session) (trigger : (g s).trigger = s.trigger)
    (elapsed : (g s).elapsed = s.elapsed) (fired : (g s).fire = g s.fire)
    (calm : { g s with reading := .receiving } = g { s with reading := .receiving }) :
    (g s).afterMessage = g s.afterMessage := by
  rcases s.afterMessage_cases with ⟨hf, he⟩ | ⟨hf, he⟩ <;>
    rcases (g s).afterMessage_cases with ⟨hf', he'⟩ | ⟨hf', he'⟩ <;>
    rw [trigger, elapsed, hf] at hf'
  · rw [he, he']
    exact fired
  · cases hf'
  · cases hf'
  · rw [he, he', calm]

/-- Everything the read loop looks at, apart from its stream and its trigger, is the same in
both. -/
structure LooksAlike (s t : Session) : Prop where
  reading : t.reading = s.reading
  stop : t.stop? = s.stop?
  layer : t.layer = s.layer
  acksOpen : t.acksOpen = s.acksOpen
  queue : t.writer.queue = s.writer.queue

/-- What a change of a session owes that is related to it by `before` ahead of a move of the read
loop, and by `after` behind it. What the loop does on its way keeps `before`; where it ends, turns
to its queue or comes to the end of a message, the move is over. -/
structure SideBySide (before after : Session → Session → Prop) : Prop where
  alike : ∀ {s t}, before s t → LooksAlike s t
  ending : ∀ {s t} (e : Ending), before s t → after (s.endReading e) (t.endReading e)
  message : ∀ {s t}, before s t → after s.afterMessage t.afterMessage
  layered : ∀ {s t} (l : Layer Seeded), before s t →
    before { s with layer := some l } { t with layer := some l }
  withheld : ∀ {s t} (e : Event) (id : UInt64), e = .redelivered id ∨ e = .simulatedDrop id →
    before s t → before (s.note [e]) (t.note [e])
  queueing : ∀ {s t} (id : UInt64), before s t →
    after { s with reading := .queueing id } { t with reading := .queueing id }
  queued : ∀ {s t} (q : Queue UInt64) (id : UInt64), before s t →
    before ({ s with writer := { s.writer with queue := q } }.note [.queuedAck s.attempt id])
      ({ t with writer := { t.writer with queue := q } }.note [.queuedAck t.attempt id])
  refused : ∀ {s t} (id : UInt64), before s t →
    before ({ s with acksOpen := false }.note [.writerStopped s.attempt id])
      ({ t with acksOpen := false }.note [.writerStopped t.attempt id])

namespace SideBySide

variable {before after : Session → Session → Prop} {s t : Session}

theorem judge (h : SideBySide before after) (side : before s t) (id : UInt64)
    (verdict : Verdict × Layer Seeded) : after (s.judge id verdict) (t.judge id verdict) := by
  obtain ⟨v, l⟩ := verdict
  have layered := h.layered l side
  cases v with
  | redelivered => exact h.message (h.withheld _ id (Or.inl rfl) layered)
  | dropped => exact h.message (h.withheld _ id (Or.inr rfl) layered)
  | acknowledged =>
      have same := (h.alike side).acksOpen
      simp only [Session.judge]
      by_cases wanted : s.acksOpen = true
      · rw [if_pos wanted, if_pos (same.trans wanted)]
        exact h.queueing id layered
      · rw [if_neg wanted, if_neg (same ▸ wanted)]
        exact h.message layered

/-- The layer decides alike about a message, whatever else the message may be. -/
theorem acknowledge (h : SideBySide before after) (side : before s t) (id : UInt64) :
    after (s.acknowledge id) (t.acknowledge id) := by
  have same := (h.alike side).layer
  cases layer : s.layer with
  | none =>
      simp only [Session.acknowledge, layer, same]
      exact h.message side
  | some l =>
      rw [acknowledge_eq_judge layer, acknowledge_eq_judge (same.trans layer)]
      exact h.judge side id (l.deliver id)

theorem offer (h : SideBySide before after) (side : before s t) (id : UInt64)
    (answer : Sending UInt64) : Option.Rel after (s.offer id answer) (t.offer id answer) := by
  cases answer with
  | sent q => exact .some (h.message (h.queued q id side))
  | closed => exact .some (h.message (h.refused id side))
  | full => exact .none

theorem readStep_stopped (h : SideBySide before after) (side : before s t) {e : Ending}
    (live : ∀ e, s.reading ≠ .ended e) (stop : s.stop? = some e) :
    Option.Rel after s.readStep t.readStep := by
  have live' : ∀ e, t.reading ≠ .ended e := (h.alike side).reading ▸ live
  rw [readStep_of_stop live stop, readStep_of_stop live' ((h.alike side).stop.trans stop)]
  exact .some (h.ending e side)

/-- Two read loops go on side by side, or both have to wait, if they do where their streams
answer. -/
theorem readStep (h : SideBySide before after) (side : before s t)
    (arrives : s.reading = .receiving → s.stop? = none →
      Option.Rel after (s.answered (s.inbound.poll s.now)) (t.answered (t.inbound.poll t.now))) :
    Option.Rel after s.readStep t.readStep := by
  obtain ⟨reading, stop, -, -, queue⟩ := h.alike side
  cases place : s.reading with
  | ended e =>
      simp only [Session.readStep, reading, place]
      exact .none
  | receiving =>
      cases calm : s.stop? with
      | some e => exact h.readStep_stopped side (by simp [place]) calm
      | none =>
          rw [readStep_eq_answered place calm,
            readStep_eq_answered (reading.trans place) (stop.trans calm)]
          exact arrives place calm
  | queueing id =>
      cases calm : s.stop? with
      | some e => exact h.readStep_stopped side (by simp [place]) calm
      | none =>
          rw [readStep_eq_offer place calm,
            readStep_eq_offer (reading.trans place) (stop.trans calm), queue]
          exact h.offer side id (s.writer.queue.send id)

end SideBySide

/-- Side by side with a copy that is computed from the session, the loop makes the move of the
session and the change after it. -/
theorem eq_map_of_rel {g : Session → Session} {x y : Option Session}
    (h : Option.Rel (fun s t => t = g s) x y) : y = x.map g := by
  cases h with
  | some same => exact congrArg some same
  | none => rfl

end DuplexStream.Session
