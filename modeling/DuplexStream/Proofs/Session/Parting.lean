import DuplexStream.Proofs.Session.Recast
import DuplexStream.Proofs.Session.Sightings

/-!
# Two sessions with different delays

Two sessions that differ in the delay of the trigger alone go side by side: as long as the earlier
delay is not due the later one is not either, so the trigger reads both alike. The two part when the
earlier delay is due (`Session.Beside`). From then on the session with the earlier delay reads
nothing more, whatever the other one still receives.
-/

namespace DuplexStream.Session

section Rest

variable {s s' s'' : Session} {t : Ending}

/-- What stays as it is once the read loop has ended. -/
structure Rests (s s' : Session) : Prop where
  reading : s'.reading = s.reading
  inbound : s'.inbound = s.inbound
  count : s'.count = s.count
  delivered : s'.delivered = s.delivered
  trigger : s'.trigger = s.trigger

theorem Rests.trans (h : Rests s s') (h' : Rests s' s'') : Rests s s'' where
  reading := h'.reading.trans h.reading
  inbound := h'.inbound.trans h.inbound
  count := h'.count.trans h.count
  delivered := h'.delivered.trans h.delivered
  trigger := h'.trigger.trans h.trigger

theorem Move.rests (ended : s.reading = .ended t) (move : Move s s') : Rests s s' := by
  cases move with
  | read move => exact absurd ended ((reads_of_readStep move).live t)
  | write move =>
      obtain ⟨w, events, hw, rfl⟩ := writeStep_eq_some move
      exact ⟨rfl, rfl, rfl, delivered_note_of_silent _ hw.receivedIds, rfl⟩
  | cancel | shutDown | take | hangUp | pass | plan => exact ⟨rfl, rfl, rfl, rfl, rfl⟩

/-- A session whose read loop has ended reads nothing more, in whatever order moves come. -/
theorem Reaches.rests (ended : s.reading = .ended t) (reached : Reaches s s') : Rests s s' := by
  induction reached with
  | refl => exact ⟨rfl, rfl, rfl, rfl, rfl⟩
  | tail _ move ih => exact ih.trans (move.rests (ih.reading.trans ended))

theorem delivered_afterMessage (s : Session) : s.afterMessage.delivered = s.delivered := by
  rcases s.afterMessage_cases with ⟨_, he⟩ | ⟨_, he⟩
  · rw [he]
    exact delivered_note_of_silent s rfl
  · rw [he]
    rfl

theorem Acknowledges.delivered {id : UInt64} (verdict : Acknowledges s id s') :
    s'.delivered = s.delivered := by
  cases verdict with
  | plain => exact delivered_afterMessage s
  | passed layer verdict withheld silent =>
      rw [delivered_afterMessage]
      exact delivered_note_of_silent _ (List.filterMap_cons_none silent)
  | queueing => rfl
  | unwanted => exact delivered_afterMessage _

/-- What has been received is never taken back. -/
theorem Move.delivered_prefix (move : Move s s') : s.delivered <+: s'.delivered := by
  have same {a : Session} (log : a.delivered = s.delivered) : s.delivered <+: a.delivered :=
    log ▸ List.prefix_refl _
  cases move with
  | read move =>
      cases reads_of_readStep move with
      | stopped | closed | failed | moved => exact same rfl
      | ignored => exact same (delivered_note_of_silent _ rfl)
      | data receiving calm arrival verdict =>
          rw [verdict.delivered, delivered_note]
          exact List.prefix_append _ _
      | queued =>
          apply same
          rw [delivered_afterMessage]
          exact delivered_note_of_silent _ rfl
      | refused =>
          apply same
          rw [delivered_afterMessage]
          exact delivered_note_of_silent _ rfl
  | write move =>
      obtain ⟨w, events, hw, rfl⟩ := writeStep_eq_some move
      exact same (delivered_note_of_silent _ hw.receivedIds)
  | cancel | shutDown | take | hangUp | pass | plan => exact same rfl

theorem Reaches.delivered_prefix (reached : Reaches s s') : s.delivered <+: s'.delivered := by
  induction reached with
  | refl => exact List.prefix_refl _
  | tail _ move ih => exact ih.trans move.delivered_prefix

end Rest

/-- The session with a trigger that has another delay and has not been observed. -/
def rearm (s : Session) (delay : Option Duration) : Session :=
  { s with trigger := .ofDelay delay }

/-- Two sessions whose triggers have an earlier and a later delay: they differ in nothing else, and
no trigger has fired, or the first one has been cancelled and the second one goes on. -/
inductive Beside (early late : Option Duration) (s t : Session) : Prop
  | together (armed : s.trigger = .ofDelay early) (other : t = s.rearm late)
  | parted (fired : s.trigger.fired = true) (ended : s.reading = .ended .localCancel)
      (more : s.delivered <+: t.delivered)

section Steps

variable {early late : Option Duration} {s : Session}

/-- At the end of a message the earlier delay may be due, and the later one only if the earlier
one is. -/
theorem afterMessage_rearm (armed : s.trigger = .ofDelay early)
    (later : ∀ x, Trigger.Due late x → Trigger.Due early x) :
    Beside early late s.afterMessage (s.rearm late).afterMessage := by
  rcases s.afterMessage_cases with ⟨hf, he⟩ | ⟨hf, he⟩
  · apply Beside.parted
    · rw [he]
      rfl
    · rw [he]
      rfl
    · rw [delivered_afterMessage, delivered_afterMessage]
      exact List.prefix_refl _
  · have calm : ¬ Trigger.Due late s.elapsed := by
      intro due
      have fires := (s.trigger.fires_iff s.elapsed).mpr
      rw [armed] at fires hf
      rw [fires ⟨rfl, later _ due⟩] at hf
      cases hf
    rcases (s.rearm late).afterMessage_cases with ⟨hf', _⟩ | ⟨_, he'⟩
    · exact absurd (((s.rearm late).trigger.fires_iff _).mp hf').2 calm
    · rw [he, he']
      exact .together armed rfl

/-- Moves of the read loop that do not come to the end of a message keep the two together. -/
theorem sideBySide_rearm (later : ∀ x, Trigger.Due late x → Trigger.Due early x) :
    SideBySide (fun s t => s.trigger = .ofDelay early ∧ t = s.rearm late) (Beside early late) where
  alike := by
    rintro s _ ⟨-, rfl⟩
    exact ⟨rfl, rfl, rfl, rfl, rfl⟩
  ending := by
    rintro s _ e ⟨armed, rfl⟩
    exact .together armed rfl
  message := by
    rintro s _ ⟨armed, rfl⟩
    exact afterMessage_rearm armed later
  layered := by
    rintro s _ l ⟨armed, rfl⟩
    exact ⟨armed, rfl⟩
  withheld := by
    rintro s _ e id - ⟨armed, rfl⟩
    exact ⟨armed, rfl⟩
  queueing := by
    rintro s _ id ⟨armed, rfl⟩
    exact .together armed rfl
  queued := by
    rintro s _ q id ⟨armed, rfl⟩
    exact ⟨armed, rfl⟩
  refused := by
    rintro s _ id ⟨armed, rfl⟩
    exact ⟨armed, rfl⟩

theorem answered_rearm (armed : s.trigger = .ofDelay early)
    (later : ∀ x, Trigger.Due late x → Trigger.Due early x) (answer : Arrival) :
    Option.Rel (Beside early late) (s.answered answer) ((s.rearm late).answered answer) := by
  cases answer with
  | item e rest =>
      cases e with
      | data m =>
          have side := (sideBySide_rearm later).acknowledge (s := s.taking m rest) ⟨armed, rfl⟩ m.id
          exact .some side
      | ack | empty => exact .some (.together armed rfl)
  | status | closed | moved => exact .some (.together armed rfl)
  | pending => exact .none

/-- The read loops of the two move alike, up to the firing. -/
theorem readStep_rearm (armed : s.trigger = .ofDelay early)
    (later : ∀ x, Trigger.Due late x → Trigger.Due early x) :
    Option.Rel (Beside early late) s.readStep (s.rearm late).readStep := by
  apply (sideBySide_rearm later).readStep ⟨armed, rfl⟩
  intro _ _
  exact answered_rearm armed later (s.inbound.poll s.now)

theorem writeStep_rearm (s : Session) (late : Option Duration) :
    (s.rearm late).writeStep = s.writeStep.map fun s' => s'.rearm late :=
  writeStep_map (fun s => s.rearm late) rfl rfl fun _ _ _ => rfl

theorem Beside.withTurn {t : Session} (h : Beside early late s t) (turn : Turn) :
    Beside early late { s with turn := turn } { t with turn := turn } := by
  cases h with
  | together armed other =>
      rw [other]
      exact .together armed rfl
  | parted fired ended more => exact .parted fired ended more

theorem step_rearm (armed : s.trigger = .ofDelay early)
    (later : ∀ x, Trigger.Due late x → Trigger.Due early x) :
    Option.Rel (Beside early late) s.step (s.rearm late).step := by
  have read := readStep_rearm armed later
  have write : Option.Rel (Beside early late) s.writeStep (s.rearm late).writeStep := by
    rw [writeStep_rearm]
    cases hw : s.writeStep with
    | none => exact .none
    | some s' =>
        obtain ⟨w, events, _, rfl⟩ := writeStep_eq_some hw
        exact .some (.together armed rfl)
  have turn : (s.rearm late).turn = s.turn := rfl
  simp only [step, turn]
  generalize s.readStep = a, (s.rearm late).readStep = b at read
  generalize s.writeStep = c, (s.rearm late).writeStep = d at write
  cases s.turn with
  | reader =>
      cases read with
      | some read => exact .some read
      | none =>
          cases write with
          | some write => exact .some (write.withTurn .writer)
          | none => exact .none
  | writer =>
      cases write with
      | some write => exact .some write
      | none =>
          cases read with
          | some read => exact .some (read.withTurn .reader)
          | none => exact .none

/-- Up to the firing the two sessions repeat the same. The surroundings and the clock do not look at
the trigger. -/
theorem next_rearm (limit : Nat) (armed : s.trigger = .ofDelay early)
    (later : ∀ x, Trigger.Due late x → Trigger.Due early x) :
    Option.Rel (Beside early late) (s.next limit) ((s.rearm late).next limit) := by
  have step := step_rearm armed later
  have stops : ((s.rearm late).isFinished || decide (limit ≤ (s.rearm late).now)) =
      (s.isFinished || decide (limit ≤ s.now)) := rfl
  have unsettled : (s.rearm late).unsettled = s.unsettled := rfl
  simp only [next, stops, unsettled]
  generalize s.step = a, (s.rearm late).step = b at step
  cases step with
  | some step => exact .some step
  | none =>
      cases s.isFinished || decide (limit ≤ s.now) with
      | true => exact .none
      | false =>
          cases s.unsettled with
          | true => exact .some (.together armed rfl)
          | false => exact .some (.together armed rfl)

end Steps

section Runs

variable {early late : Option Duration} {limit : Nat} {s t : Session}

/-- Two sessions that have parted run on apart: the one receives nothing more, and the other one
keeps what it has received. -/
theorem Beside.parted_run (fired : s.trigger.fired = true) (ended : s.reading = .ended .localCancel)
    (more : s.delivered <+: t.delivered) : Beside early late (s.run limit) (t.run limit) := by
  have rests := (unfolds_run limit s).reaches.rests ended
  apply Beside.parted
  · rw [rests.trigger, fired]
  · rw [rests.reading, ended]
  · rw [rests.delivered]
    exact more.trans (unfolds_run limit t).reaches.delivered_prefix

/-- Two sessions with different delays end side by side, or parted. -/
theorem run_rearm (limit : Nat) (armed : s.trigger = .ofDelay early) (poll : 1 ≤ s.writer.poll)
    (later : ∀ x, Trigger.Due late x → Trigger.Due early x) :
    Beside early late (s.run limit) ((s.rearm late).run limit) := by
  revert armed
  apply run_induction limit ?_ ?_ poll
  · intro s halted armed
    have next := next_rearm limit armed later
    rw [halted] at next
    generalize hb : (s.rearm late).next limit = b at next
    cases next
    rw [run_of_over halted, run_of_over hb]
    exact .together armed rfl
  · intro s s' poll move ih armed
    have next := next_rearm limit armed later
    rw [move] at next
    generalize hb : (s.rearm late).next limit = b at next
    cases next with
    | @some _ t' beside =>
        rw [run_of_next poll move, run_of_next (s := s.rearm late) poll hb]
        cases beside with
        | together armed' other =>
            rw [other]
            exact ih armed'
        | parted fired ended more =>
            -- From here on the moves of the two have nothing to do with one another.
            exact .parted_run fired ended more

end Runs

end DuplexStream.Session
