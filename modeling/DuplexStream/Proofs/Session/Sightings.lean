import DuplexStream.Proofs.Session.Promptness

/-!
# What the trigger sees

The trigger of a session is shown the time of each data message once: at its receipt, or, if an
acknowledgement is to be queued, when this has been queued or refused. A `Chronicle` lists these
sightings along the moves of a session, in whatever order they come. The trigger fires at the first
sighting that is not earlier than its delay, and that is the last sighting there is
(`Session.Watched`).
-/

namespace DuplexStream

/-- A time since the stream opened is not earlier than the delay. Without a delay none is. -/
def Trigger.Due (delay : Option Duration) (elapsed : Nat) : Prop :=
  ∃ d, delay = some d ∧ d.nanos ≤ (Duration.ofMillis elapsed).nanos

/-- A trigger fires once, and only when it is due. -/
theorem Trigger.fires_iff (t : Trigger) (elapsed : Nat) :
    t.fires (.ofMillis elapsed) = true ↔ t.fired = false ∧ Due t.delay elapsed := by
  cases hd : t.delay <;> simp [fires, Due, hd]

/-- The event tells that the trigger has fired. -/
def Event.isAutoCancel : Event → Bool
  | .autoCancelled .. => true
  | _ => false

/-- The write loop does not note a firing. -/
theorem WriteLoop.Step.not_isAutoCancel {w w' : WriteLoop} {now : Nat} {events : List Event}
    (h : WriteLoop.Step w now w' events) : ∀ e ∈ events, e.isAutoCancel = false := by
  cases h <;> simp [Event.isAutoCancel, WriteLoop.finishEvent]

/-- A message as the trigger sees it: its id, and the time since the stream opened. -/
structure Sighting where
  id : UInt64
  elapsed : Nat

namespace Session

/-- What the trigger is shown if the read loop moves now. A message whose acknowledgement is to be
queued is not shown before that has been tried. -/
def sighting (s : Session) : List Sighting :=
  match s.stop?, s.reading with
  | none, .receiving =>
    match s.inbound.poll s.now with
    | .item (.data m) _ =>
      if s.acksOpen = true ∧ s.ackFor m.id ≠ [] then [] else [⟨m.id, s.elapsed⟩]
    | _ => []
  | none, .queueing id => [⟨id, s.elapsed⟩]
  | _, _ => []

/-- The moves of all but the read loop. -/
inductive Others : Session → Session → Prop
  | write {s s' : Session} (move : s.writeStep = some s') : Others s s'
  | cancel (s : Session) : Others s s.requestCancel
  | shutDown (s : Session) : Others s { s with shutdown := true }
  | take (s : Session) (n : Nat) : Others s (s.peerTakes n)
  | hangUp (s : Session) : Others s s.peerHangsUp
  | pass (s : Session) (ticks : Nat) : Others s { s with now := s.now + ticks }
  | plan (s : Session) (turn : Turn) (settled : Bool) (cancelAt shutdownAt : Option Nat)
      (rest : Nat) (phase : Listening) :
      Others s { s with
        turn := turn
        settled := settled
        cancelAt := cancelAt
        shutdownAt := shutdownAt
        peer := { s.peer with rest := rest, phase := phase } }

/-- The sightings on the way from one session to another, in order. -/
inductive Chronicle (first : Session) : List Sighting → Session → Prop
  | start : Chronicle first [] first
  | read {seen : List Sighting} {s s' : Session} (before : Chronicle first seen s)
      (move : s.readStep = some s') : Chronicle first (seen ++ s.sighting) s'
  | other {seen : List Sighting} {s s' : Session} (before : Chronicle first seen s)
      (move : Others s s') : Chronicle first seen s'

section Chronicles

variable {first s s' : Session} {seen : List Sighting}

theorem Others.move (h : Others s s') : Move s s' := by
  cases h with
  | write move => exact .write move
  | cancel => exact .cancel s
  | shutDown => exact .shutDown s
  | take n => exact .take s n
  | hangUp => exact .hangUp s
  | pass ticks => exact .pass s ticks
  | plan turn settled cancelAt shutdownAt rest phase =>
      exact .plan s turn settled cancelAt shutdownAt rest phase

theorem Chronicle.reaches (h : Chronicle first seen s) : Reaches first s := by
  induction h with
  | start => exact .refl
  | read _ move ih => exact ih.tail (.read move)
  | other _ move ih => exact ih.tail move.move

theorem Chronicle.move (h : Chronicle first seen s) (move : Move s s') :
    ∃ more, Chronicle first (seen ++ more) s' := by
  have other (others : Others s s') : ∃ more, Chronicle first (seen ++ more) s' :=
    ⟨[], by rw [List.append_nil]; exact h.other others⟩
  cases move with
  | read move => exact ⟨_, h.read move⟩
  | write move => exact other (.write move)
  | cancel => exact other (.cancel s)
  | shutDown => exact other (.shutDown s)
  | take n => exact other (.take s n)
  | hangUp => exact other (.hangUp s)
  | pass ticks => exact other (.pass s ticks)
  | plan turn settled cancelAt shutdownAt rest phase =>
      exact other (.plan s turn settled cancelAt shutdownAt rest phase)

/-- Whatever a session has come to, there is a chronicle of the way. -/
theorem exists_chronicle (reached : Reaches first s) : ∃ seen, Chronicle first seen s := by
  induction reached with
  | refl => exact ⟨[], .start⟩
  | tail _ move ih =>
      obtain ⟨seen, chronicle⟩ := ih
      obtain ⟨more, longer⟩ := chronicle.move move
      exact ⟨seen ++ more, longer⟩

end Chronicles

section Sighting

variable {s : Session}

/-- A sighting shows the present time. -/
theorem elapsed_of_mem_sighting {o : Sighting} (shown : o ∈ s.sighting) :
    o.elapsed = s.elapsed := by
  simp only [sighting] at shown
  split at shown
  · split at shown
    · split at shown
      · exact absurd shown List.not_mem_nil
      · rw [List.mem_singleton.mp shown]
    · exact absurd shown List.not_mem_nil
  · rw [List.mem_singleton.mp shown]
  · exact absurd shown List.not_mem_nil

theorem sighting_stopped {t : Ending} (stop : s.stop? = some t) : s.sighting = [] := by
  simp only [sighting, stop]

theorem sighting_queueing {id : UInt64} (queueing : s.reading = .queueing id)
    (calm : s.stop? = none) : s.sighting = [⟨id, s.elapsed⟩] := by
  simp only [sighting, calm, queueing]

/-- Only data is shown. -/
theorem sighting_of_no_data (receiving : s.reading = .receiving) (calm : s.stop? = none)
    (bare : ∀ m rest, s.inbound.poll s.now ≠ .item (.data m) rest) : s.sighting = [] := by
  simp only [sighting, calm, receiving]

theorem sighting_data {m : Message} {rest : Inbound} (receiving : s.reading = .receiving)
    (calm : s.stop? = none) (arrival : s.inbound.poll s.now = .item (.data m) rest) :
    s.sighting = if s.acksOpen = true ∧ s.ackFor m.id ≠ [] then [] else [⟨m.id, s.elapsed⟩] := by
  simp only [sighting, calm, receiving, arrival]

end Sighting

/-- What a firing leaves behind: the session is cancelled and reads no more, every message has been
seen, and the last sighting is the first one that is due. -/
structure Fired (delay : Option Duration) (seen : List Sighting) (s : Session) : Prop where
  reading : s.reading = .ended .localCancel
  cancel : s.cancel = .cancel .clear
  all : s.delivered = seen.map Sighting.id
  last : ∃ before last, seen = before ++ [last] ∧ Trigger.Due delay last.elapsed ∧
    ∀ o ∈ before, ¬ Trigger.Due delay o.elapsed

/-- The trigger knows the messages in the order of their receipt, all but at most the last one,
which is being acknowledged. It has fired exactly if a sighting was due. -/
structure Watched (delay : Option Duration) (seen : List Sighting) (s : Session) : Prop where
  armed : s.trigger.delay = delay
  count : s.count = s.delivered.length
  running : (∀ t, s.reading ≠ .ended t) → s.delivered = seen.map Sighting.id ++ s.pending
  unseen : ∃ rest, s.delivered = seen.map Sighting.id ++ rest ∧ rest.length ≤ 1
  early : s.trigger.fired = false → ∀ o ∈ seen, ¬ Trigger.Due delay o.elapsed
  fired : s.trigger.fired = true → Fired delay seen s

section Watching

variable {delay : Option Duration} {seen : List Sighting} {s s' : Session} {id : UInt64}

/-- A trigger that has fired has ended the read loop. -/
theorem Watched.unfired (h : Watched delay seen s) (live : ∀ t, s.reading ≠ .ended t) :
    s.trigger.fired = false := by
  rw [← Bool.not_eq_true]
  intro fired
  exact live _ (h.fired fired).reading

/-- The read loop is at the end of a message: all but the time of this one has been seen, and
nothing was due. -/
structure Ready (delay : Option Duration) (seen : List Sighting) (id : UInt64) (s : Session) :
    Prop where
  armed : s.trigger.delay = delay
  unfired : s.trigger.fired = false
  count : s.count = s.delivered.length
  delivered : s.delivered = seen.map Sighting.id ++ [id]
  early : ∀ o ∈ seen, ¬ Trigger.Due delay o.elapsed

theorem Ready.afterMessage (h : Ready delay seen id s) :
    Watched delay (seen ++ [⟨id, s.elapsed⟩]) s.afterMessage := by
  have all : s.delivered = (seen ++ [Sighting.mk id s.elapsed]).map Sighting.id := by
    rw [h.delivered, List.map_append, List.map_singleton]
  have fires := s.trigger.fires_iff s.elapsed
  rw [h.armed] at fires
  rcases s.afterMessage_cases with ⟨hf, he⟩ | ⟨hf, he⟩
  · have log : (s.note [.autoCancelled s.attempt s.elapsed s.trigger.delay]).delivered =
        s.delivered := delivered_note_of_silent s rfl
    rw [he]
    refine ⟨h.armed, h.count.trans (congrArg List.length log.symm),
      fun live => absurd rfl (live .localCancel), ⟨[], ?_, Nat.zero_le _⟩, nofun, fun _ => ?_⟩
    · rw [List.append_nil]
      exact log.trans all
    · exact ⟨rfl, rfl, log.trans all, seen, _, rfl, (fires.mp hf).2, h.early⟩
  · have early : ¬ Trigger.Due delay s.elapsed := fun due => by
      rw [fires.mpr ⟨h.unfired, due⟩] at hf
      cases hf
    rw [he]
    refine ⟨h.armed, h.count, fun _ => ?_, ⟨[], ?_, Nat.zero_le _⟩, fun _ o shown => ?_,
      fun fired => absurd (h.unfired.symm.trans fired) Bool.false_ne_true⟩
    · exact all.trans (List.append_nil _).symm
    · rw [List.append_nil]
      exact all
    · rcases List.mem_append.mp shown with before | last
      · exact h.early o before
      · rw [List.mem_singleton.mp last]
        exact early

/-- Only some parts of a session matter. -/
theorem Ready.congr (h : Ready delay seen id s) (trigger : s'.trigger = s.trigger)
    (count : s'.count = s.count) (delivered : s'.delivered = s.delivered) :
    Ready delay seen id s' where
  armed := by rw [trigger, h.armed]
  unfired := by rw [trigger, h.unfired]
  count := by rw [count, delivered, h.count]
  delivered := by rw [delivered, h.delivered]
  early := h.early

/-- The message is at its end without an acknowledgement, or with one that has been tried. -/
theorem Ready.shown (h : Ready delay seen id s) (trigger : s'.trigger = s.trigger)
    (count : s'.count = s.count) (delivered : s'.delivered = s.delivered)
    (elapsed : s'.elapsed = s.elapsed) :
    Watched delay (seen ++ [⟨id, s.elapsed⟩]) s'.afterMessage :=
  elapsed ▸ (h.congr trigger count delivered).afterMessage

/-- The acknowledgement of the message is to be queued first. -/
theorem Ready.queueing (h : Ready delay seen id s) (trigger : s'.trigger = s.trigger)
    (count : s'.count = s.count) (delivered : s'.delivered = s.delivered)
    (queueing : s'.reading = .queueing id) : Watched delay seen s' := by
  have h := h.congr trigger count delivered
  have pending : s'.pending = [id] := by simp only [pending, queueing]
  refine ⟨h.armed, h.count, fun _ => ?_, ⟨[id], h.delivered, Nat.le_refl _⟩, fun _ => h.early,
    fun fired => absurd (h.unfired.symm.trans fired) Bool.false_ne_true⟩
  rw [pending, h.delivered]

/-- The acknowledgement of the message has been tried. -/
theorem Watched.ready (h : Watched delay seen s) (queueing : s.reading = .queueing id) :
    Ready delay seen id s := by
  have live : ∀ t, s.reading ≠ .ended t := by simp [queueing]
  have unfired := h.unfired live
  refine ⟨h.armed, unfired, h.count, ?_, h.early unfired⟩
  simpa [pending, queueing] using h.running live

/-- Nothing that the trigger is concerned with has changed. -/
theorem Watched.congr (h : Watched delay seen s) (trigger : s'.trigger = s.trigger)
    (count : s'.count = s.count) (delivered : s'.delivered = s.delivered)
    (reading : s'.reading = s.reading)
    (cancel : s'.cancel = s.cancel ∨ s'.cancel = .cancel .clear) : Watched delay seen s' where
  armed := by rw [trigger, h.armed]
  count := by rw [count, delivered, h.count]
  running := fun live => by
    rw [reading] at live
    have pending : s'.pending = s.pending := by simp only [pending, reading]
    rw [delivered, pending, h.running live]
  unseen := by rw [delivered]; exact h.unseen
  early := by rw [trigger]; exact h.early
  fired := fun fired => by
    rw [trigger] at fired
    have before := h.fired fired
    refine ⟨reading.trans before.reading, ?_, delivered.trans before.all, before.last⟩
    rcases cancel with same | again
    · exact same.trans before.cancel
    · exact again

/-- The read loop ends for another reason than the trigger. -/
theorem Watched.endReading (h : Watched delay seen s) (live : ∀ t, s.reading ≠ .ended t)
    (t : Ending) : Watched delay seen (s.endReading t) where
  armed := h.armed
  count := h.count
  running := fun live' => absurd rfl (live' t)
  unseen := h.unseen
  early := h.early
  fired := fun fired => absurd ((h.unfired live).symm.trans fired) Bool.false_ne_true

theorem Watched.withInbound (h : Watched delay seen s) (rest : Inbound) :
    Watched delay seen { s with inbound := rest } :=
  h.congr rfl rfl rfl rfl (Or.inl rfl)

/-- A message has been received, and all the messages before it have been seen. -/
theorem Watched.received (h : Watched delay seen s) (receiving : s.reading = .receiving)
    (m : Message) (rest : Inbound) :
    Ready delay seen m.id (({ s with inbound := rest, count := s.count + 1 } : Session).note
      [.received s.attempt m.id m.text]) := by
  have live : ∀ t, s.reading ≠ .ended t := by simp [receiving]
  have log : (s.note [.received s.attempt m.id m.text]).delivered = s.delivered ++ [m.id] := by
    simp [Event.receivedId?]
  have before : s.delivered = seen.map Sighting.id := by
    simpa [pending, receiving] using h.running live
  have unfired := h.unfired live
  refine ⟨h.armed, unfired, ?_, log.trans (congrArg (· ++ [m.id]) before), h.early unfired⟩
  change s.count + 1 = (s.note [.received s.attempt m.id m.text]).delivered.length
  rw [log, List.length_append, List.length_singleton, h.count]

/-- What the layer's verdict on a message leads to. -/
theorem Watched.acknowledges (h : Watched delay seen s) (receiving : s.reading = .receiving)
    (calm : s.stop? = none) {m : Message} {rest : Inbound}
    (arrival : s.inbound.poll s.now = .item (.data m) rest)
    (verdict : Acknowledges ({ s with inbound := rest, count := s.count + 1 }.note
      [.received s.attempt m.id m.text]) m.id s') : Watched delay (seen ++ s.sighting) s' := by
  have shown := sighting_data receiving calm arrival
  have ready := h.received receiving m rest
  cases verdict with
  | plain layer =>
      have layer : s.layer = none := layer
      rw [shown, if_neg (by simp [ackFor, layer])]
      exact ready.shown rfl rfl rfl rfl
  | @passed l l' v e layer verdict withheld silent =>
      have layer : s.layer = some l := layer
      rw [shown, if_neg (by simp [ackFor, layer, verdict, Layer.ackOf, withheld])]
      refine ready.shown rfl rfl ?_ rfl
      exact delivered_note_of_silent _ (List.filterMap_cons_none silent)
  | @queueing l l' layer verdict wanted =>
      have layer : s.layer = some l := layer
      have wanted : s.acksOpen = true := wanted
      rw [shown, if_pos ⟨wanted, by simp [ackFor, layer, verdict, Layer.ackOf]⟩, List.append_nil]
      exact ready.queueing rfl rfl rfl rfl
  | @unwanted l l' layer verdict unwanted =>
      have unwanted : s.acksOpen = false := unwanted
      rw [shown, if_neg (by simp [unwanted])]
      exact ready.shown rfl rfl rfl rfl

/-- A move of the read loop shows the trigger what `sighting` says. -/
theorem Watched.reads (h : Watched delay seen s) (move : Reads s s') :
    Watched delay (seen ++ s.sighting) s' := by
  have live := move.live
  cases move with
  | stopped _ stop =>
      rw [sighting_stopped stop, List.append_nil]
      exact h.endReading live _
  | closed receiving calm arrival =>
      rw [sighting_of_no_data receiving calm (by simp [arrival]), List.append_nil]
      exact h.endReading live _
  | @failed st rest receiving calm arrival =>
      rw [sighting_of_no_data receiving calm (by simp [arrival]), List.append_nil]
      exact (h.withInbound rest).endReading live _
  | @moved rest receiving calm arrival =>
      rw [sighting_of_no_data receiving calm (by simp [arrival]), List.append_nil]
      exact h.withInbound rest
  | @ignored e rest receiving calm arrival bare =>
      have noData : ∀ m rest', s.inbound.poll s.now ≠ .item (.data m) rest' := by
        rintro m rest' data
        rw [arrival] at data
        cases data
        simp [Envelope.data?] at bare
      rw [sighting_of_no_data receiving calm noData, List.append_nil]
      refine (h.withInbound rest).congr rfl rfl ?_ rfl (Or.inl rfl)
      exact delivered_note_of_silent _ rfl
  | data receiving calm arrival verdict => exact h.acknowledges receiving calm arrival verdict
  | @queued a queueing calm =>
      rw [sighting_queueing queueing calm]
      refine (h.ready queueing).shown rfl rfl ?_ rfl
      exact delivered_note_of_silent _ rfl
  | @refused a queueing calm =>
      rw [sighting_queueing queueing calm]
      refine (h.ready queueing).shown rfl rfl ?_ rfl
      exact delivered_note_of_silent _ rfl

/-- The other moves do not concern the trigger. A request to cancel only repeats what a firing has
done. -/
theorem Watched.others (h : Watched delay seen s) (move : Others s s') : Watched delay seen s' := by
  cases move with
  | write move =>
      obtain ⟨w, events, hw, rfl⟩ := writeStep_eq_some move
      refine h.congr rfl rfl ?_ rfl (Or.inl rfl)
      exact delivered_note_of_silent _ hw.receivedIds
  | cancel => exact h.congr rfl rfl rfl rfl (Or.inr rfl)
  | shutDown | take | hangUp | pass | plan => exact h.congr rfl rfl rfl rfl (Or.inl rfl)

theorem Chronicle.watched {first : Session} (h : Chronicle first seen s)
    (start : Watched delay [] first) : Watched delay seen s := by
  induction h with
  | start => exact start
  | read _ move ih => exact ih.reads (reads_of_readStep move)
  | other _ move ih => exact ih.others move

theorem Watched.fired_iff (h : Watched delay seen s) :
    s.trigger.fired = true ↔ ∃ o ∈ seen, Trigger.Due delay o.elapsed := by
  constructor
  · intro fired
    obtain ⟨before, last, rfl, due, _⟩ := (h.fired fired).last
    exact ⟨last, List.mem_append_right _ (List.mem_singleton_self _), due⟩
  · rintro ⟨o, shown, due⟩
    by_contra unfired
    exact h.early (Bool.eq_false_iff.mpr unfired) o shown due

/-- Only the last sighting can be due. -/
theorem Watched.not_due (h : Watched delay seen s) :
    ∀ o ∈ seen.dropLast, ¬ Trigger.Due delay o.elapsed := by
  cases fired : s.trigger.fired with
  | false => exact fun o shown => h.early fired o ((List.dropLast_sublist seen).subset shown)
  | true =>
      obtain ⟨before, last, rfl, _, early⟩ := (h.fired fired).last
      rw [List.dropLast_concat]
      exact early

/-- A move of the read loop with which the trigger fires has the time of the firing as its last
sighting. -/
theorem Watched.last_elapsed (h : Watched delay seen s) (move : Reads s s')
    (fired : s'.trigger.fired = true) :
    ∃ before last, seen ++ s.sighting = before ++ [last] ∧ last.elapsed = s.elapsed := by
  obtain ⟨before, last, same, due, _⟩ := ((h.reads move).fired fired).last
  refine ⟨before, last, same, elapsed_of_mem_sighting ?_⟩
  have shown : last ∈ seen ++ s.sighting := by
    rw [same]
    exact List.mem_append_right _ (List.mem_singleton_self _)
  rcases List.mem_append.mp shown with old | new
  · exact absurd due (h.early (h.unfired move.live) last old)
  · exact new

end Watching

section Alarms

variable {s s' : Session}

/-- The firing of the trigger is noted, once. -/
def Alarmed (s : Session) : Prop :=
  s.log.countP Event.isAutoCancel = if s.trigger.fired then 1 else 0

/-- Events that are no firing do not change the number of firings. -/
theorem countP_append_quiet {events log : List Event}
    (quiet : ∀ e ∈ events, e.isAutoCancel = false) :
    (events ++ log).countP Event.isAutoCancel = log.countP Event.isAutoCancel := by
  rw [List.countP_append, List.countP_eq_zero.mpr, Nat.zero_add]
  intro e mem
  rw [quiet e mem]
  exact Bool.false_ne_true

theorem Alarmed.readStep (h : Alarmed s) (move : s.readStep = some s') : Alarmed s' := by
  have quiet {events : List Event} (own : ∀ e ∈ events, e.ofReader = true) :
      ∀ e ∈ events, e.isAutoCancel = false := by
    intro e mem
    have reader := own e mem
    cases e with
    | autoCancelled => cases reader
    | _ => rfl
  cases notes_of_readStep move with
  | quietly own log trigger => rw [Alarmed, log, trigger, countP_append_quiet (quiet own), h]
  | firing own log fires trigger =>
      have unfired := ((s.trigger.fires_iff s.elapsed).mp fires).1
      rw [Alarmed, log, trigger, List.countP_cons_of_pos rfl, countP_append_quiet (quiet own), h,
        unfired]
      rfl

theorem Alarmed.move (h : Alarmed s) (move : Move s s') : Alarmed s' := by
  cases move with
  | read move => exact h.readStep move
  | write move =>
      obtain ⟨w, events, hw, rfl⟩ := writeStep_eq_some move
      have quiet : ∀ e ∈ events.reverse, e.isAutoCancel = false := by
        intro e mem
        exact hw.not_isAutoCancel e (List.mem_reverse.mp mem)
      exact (countP_append_quiet quiet).trans h
  | cancel | shutDown | take | hangUp | pass | plan => exact h

theorem Alarmed.reaches (h : Alarmed s) (reached : Reaches s s') : Alarmed s' :=
  reached.keeps (fun _ _ => Alarmed.move) h

end Alarms

end Session

end DuplexStream
