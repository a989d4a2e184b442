import DuplexStream.Proofs.Session.Capacity
import DuplexStream.Proofs.Session.Parting

/-!
# When a session cancels itself

The trigger of a session fires at the first message that it sees not earlier than its delay. With an
acknowledgement to be queued it sees the message only when this has been done, and the read loop may
have had to wait for room until then. Nothing is read after the firing, and the session reports at
once. A session with a later delay reads at least as much, and acknowledges at least as much.
-/

namespace DuplexStream

/-- What the layer of a session, if it has one, has acknowledged, in order. -/
def Session.acknowledged (s : Session) : List UInt64 :=
  (s.layer.map fun l => l.acked.reverse).getD []

namespace Session

section Acknowledged

variable {mode : AckMode} {g : Seeded} {script ids more : List UInt64} {s s' : Session}

theorem Coherent.acknowledged_eq (h : Coherent (firstLayer mode g) script s) :
    s.acknowledged = produced (firstLayer mode g) s.delivered := by
  rw [acknowledged, h.layer]
  cases mode with
  | plain => rfl
  | reliable model =>
      have record := Layer.record_deliverAll model.dropProbability g s.delivered
      simp only [firstLayer, layerAfter, produced, Option.map_some, Option.getD_some, record.acked,
        List.reverse_reverse]

/-- A layer that is given more acknowledges more. -/
theorem produced_prefix (l₀ : Option (Layer Seeded)) (h : ids <+: more) :
    produced l₀ ids <+: produced l₀ more := by
  obtain ⟨rest, rfl⟩ := h
  cases l₀ with
  | none => exact List.prefix_refl _
  | some l =>
      simp only [produced, Option.map_some, Option.getD_some, Layer.deliverAll_append]
      exact List.prefix_append _ _

end Acknowledged

section Start

variable (plan : SessionPlan) (attempt : Nat) (stream : StreamScript) (around : Surroundings)
  (opened : Moment) (g : Seeded) (cancelled : Bool)

theorem watched_begun :
    Watched plan.cancelAfter [] (begun plan attempt stream around opened g cancelled) := by
  have unfired : (begun plan attempt stream around opened g cancelled).trigger =
      .ofDelay plan.cancelAfter := by
    cases cancelled <;> rfl
  have unread : (begun plan attempt stream around opened g cancelled).delivered = [] := by
    cases cancelled <;> rfl
  constructor
  · rw [unfired]
    rfl
  · rw [unread]
    cases cancelled <;> rfl
  · intro _
    rw [unread]
    cases cancelled <;> rfl
  · exact ⟨[], unread, Nat.zero_le _⟩
  · intro _ o shown
    exact absurd shown List.not_mem_nil
  · intro fired
    rw [unfired] at fired
    cases fired

theorem alarmed_begun : Alarmed (begun plan attempt stream around opened g cancelled) := by
  cases cancelled <;> rfl

end Start

section Runs

variable {first s s' : Session} {delay : Option Duration} {limit : Nat}

/-- A session in a run. If its trigger has fired, no time has passed since. -/
structure Punctual (first s : Session) : Prop where
  attended : Attended s
  chronicle : ∃ seen, Chronicle first seen s ∧ (s.trigger.fired = true →
    ∃ before last, seen = before ++ [last] ∧ last.elapsed = s.elapsed)

/-- The surroundings and the clock have no turn after a firing. -/
theorem Punctual.unfired (h : Punctual first s) (start : Watched delay [] first) (quiet : s.Quiet)
    (running : s.isFinished = false) : s.trigger.fired = false := by
  obtain ⟨seen, chronicle, _⟩ := h.chronicle
  rw [← Bool.not_eq_true]
  intro fired
  have ended := ((chronicle.watched start).fired fired).reading
  rw [h.attended.finished_of_quiet quiet ended] at running
  cases running

theorem Punctual.next (h : Punctual first s) (start : Watched delay [] first)
    (next : Next limit s s') : Punctual first s' := by
  have attended := h.attended.reaches (reaches_next next)
  obtain ⟨seen, chronicle, recent⟩ := h.chronicle
  -- Where nothing has fired, any chronicle will do.
  have later (reached : Reaches s s') (unfired : s'.trigger.fired = false) : Punctual first s' := by
    obtain ⟨seen', longer⟩ := exists_chronicle (chronicle.reaches.trans reached)
    exact ⟨attended, seen', longer, fun fired =>
      absurd (unfired.symm.trans fired) Bool.false_ne_true⟩
  cases next with
  | @read s₁ turn move =>
      have reads := reads_of_readStep move
      have elapsed : s₁.elapsed = s.elapsed := by
        rw [Session.elapsed, reads.instant.now, reads.continues.openedAt, Session.elapsed]
      refine ⟨attended, seen ++ s.sighting, ?_, fun fired => ?_⟩
      · exact (chronicle.read move).other
          (.plan s₁ turn s₁.settled s₁.cancelAt s₁.shutdownAt s₁.peer.rest s₁.peer.phase)
      · obtain ⟨before, last, same, now⟩ := (chronicle.watched start).last_elapsed reads fired
        exact ⟨before, last, same, now.trans elapsed.symm⟩
  | @write s₁ turn move =>
      refine ⟨attended, seen, ?_, ?_⟩
      · exact (chronicle.other (.write move)).other
          (.plan s₁ turn s₁.settled s₁.cancelAt s₁.shutdownAt s₁.peer.rest s₁.peer.phase)
      · obtain ⟨w, events, _, rfl⟩ := writeStep_eq_some move
        exact recent
  | settle quiet running => exact later (reaches_settle s) (h.unfired start quiet running)
  | advance quiet running => exact later (reaches_advance s limit) (h.unfired start quiet running)

/-- At the end of a run in which the trigger has fired there is a report, and no time has passed. -/
theorem Punctual.report (h : Punctual first s) (start : Watched delay [] first) (quiet : s.Quiet) :
    ∃ seen, Chronicle first seen s ∧ (s.trigger.fired = true →
      ∃ r before last, seen = before ++ [last] ∧ s.report? = some r ∧
        r.outcome = .failed .intentionalCancel ∧ r.messageCount = seen.length ∧
        r.elapsed = last.elapsed) := by
  obtain ⟨seen, chronicle, recent⟩ := h.chronicle
  refine ⟨seen, chronicle, fun fired => ?_⟩
  obtain ⟨before, last, same, now⟩ := recent fired
  have watched := chronicle.watched start
  have ended := (watched.fired fired).reading
  obtain ⟨_, phase⟩ := (isFinished_iff s).mp (h.attended.finished_of_quiet quiet ended)
  have count : s.count = seen.length := by
    rw [watched.count, (watched.fired fired).all, List.length_map]
  simp only [report?, ended, (isEnded_iff _).mpr phase, if_true, Option.some.injEq]
  exact ⟨_, before, last, same, rfl, rfl, count, now.symm⟩

end Runs

section TwoDelays

variable {early late : Option Duration} {s t : Session} {r r' : Report}

/-- Two sessions that are still together at the end report the same. -/
theorem report_rearm (s : Session) (delay : Option Duration) :
    (s.rearm delay).report? = s.report? :=
  rfl

theorem Beside.delivered_prefix (h : Beside early late s t) : s.delivered <+: t.delivered := by
  cases h with
  | together armed other =>
      rw [other]
      exact List.prefix_refl _
  | parted fired ended more => exact more

theorem Beside.report_eq (h : Beside early late s t) (unfired : s.trigger.fired = false) :
    t.report? = s.report? := by
  cases h with
  | together armed other => rw [other, report_rearm]
  | parted fired => exact absurd (unfired.symm.trans fired) Bool.false_ne_true

/-- A session that reports before a limit has come to the same end at every later limit. -/
theorem run_of_report {limit longer : Nat} (further : limit ≤ longer) (poll : 1 ≤ s.writer.poll)
    (report : (s.run limit).report? = some r) : s.run longer = s.run limit := by
  obtain ⟨t, ended, phase, _⟩ := report_eq_some report
  exact run_longer further poll ((isFinished_iff _).mpr ⟨⟨t, ended⟩, phase⟩)

end TwoDelays

/-- In both modes, whatever the script, the seed, the sizes and the peer's schedule of readings and
of a hang-up, and in whatever order moves come: the trigger sees the messages in the order of their
receipt, all but at most the last one. It sees a message at its receipt or, if the message is
acknowledged, when the acknowledgement has been handed over. It has fired exactly if a sighting was
not earlier than the delay, only the last sighting can be such a one, and the firing is noted once.
With it the session is cancelled, and from then on nothing is read or counted; a run reports it at
that time, as intended.

Of two sessions with the same settings but for the delay, the one with the earlier delay reads no
more messages, and its layer acknowledges the first of those that the other one's layer
acknowledges. If it is not cancelled by its trigger, the two reports are equal. -/
theorem auto_cancel (plan : SessionPlan) (attempt : Nat) (stream : StreamScript)
    (around : Surroundings) (opened : Moment) (g : Seeded) (cancelled : Bool) :
    let first (delay : Option Duration) :=
      begun { plan with cancelAfter := delay } attempt stream around opened g cancelled
    (∀ delay s, Reaches (first delay) s → ∃ seen, Chronicle (first delay) seen s) ∧
    (∀ delay seen s, Chronicle (first delay) seen s →
      s.count = s.delivered.length ∧
      (∃ unseen, s.delivered = seen.map Sighting.id ++ unseen ∧ unseen.length ≤ 1) ∧
      (s.trigger.fired = true ↔ ∃ o ∈ seen, Trigger.Due delay o.elapsed) ∧
      (∀ o ∈ seen.dropLast, ¬ Trigger.Due delay o.elapsed) ∧
      s.log.countP Event.isAutoCancel = (if s.trigger.fired then 1 else 0) ∧
      (s.trigger.fired = true →
        s.cancel = .cancel .clear ∧ s.reading = .ended .localCancel ∧ s.count = seen.length ∧
        ∀ s', Reaches s s' → Rests s s')) ∧
    (∀ delay limit, ∃ seen, Chronicle (first delay) seen ((first delay).run limit) ∧
      (((first delay).run limit).trigger.fired = true →
        ∃ r before last, seen = before ++ [last] ∧ ((first delay).run limit).report? = some r ∧
          r.outcome = .failed .intentionalCancel ∧ r.messageCount = seen.length ∧
          r.elapsed = last.elapsed)) ∧
    (∀ (d₁ : Duration) (d₂ : Option Duration) (n₁ n₂ : Nat) (r₁ r₂ : Report),
      (∀ d, d₂ = some d → d₁.nanos ≤ d.nanos) →
      ((first (some d₁)).run n₁).report? = some r₁ → ((first d₂).run n₂).report? = some r₂ →
      r₁.messageCount ≤ r₂.messageCount ∧
      ((first (some d₁)).run n₁).acknowledged <+: ((first d₂).run n₂).acknowledged ∧
      (((first (some d₁)).run n₁).trigger.fired = false → r₁ = r₂)) := by
  intro first
  have start (delay : Option Duration) : Watched delay [] (first delay) :=
    watched_begun { plan with cancelAfter := delay } attempt stream around opened g cancelled
  have alarmed (delay : Option Duration) : Alarmed (first delay) :=
    alarmed_begun { plan with cancelAfter := delay } attempt stream around opened g cancelled
  have attended (delay : Option Duration) : Attended (first delay) :=
    attended_begun { plan with cancelAfter := delay } attempt stream around opened g cancelled
  have poll (delay : Option Duration) : 1 ≤ (first delay).writer.poll :=
    one_le_poll_begun { plan with cancelAfter := delay } attempt stream around opened g cancelled
  refine ⟨fun delay s reached => exists_chronicle reached, ?_, fun delay limit => ?_, ?_⟩
  · intro delay seen s chronicle
    have watched := chronicle.watched (start delay)
    refine ⟨watched.count, watched.unseen, watched.fired_iff, watched.not_due,
      (alarmed delay).reaches chronicle.reaches, fun fired => ?_⟩
    have after := watched.fired fired
    refine ⟨after.cancel, after.reading, ?_, fun s' reached => reached.rests after.reading⟩
    rw [watched.count, after.all, List.length_map]
  · have punctual : Punctual (first delay) ((first delay).run limit) := by
      apply (unfolds_run limit (first delay)).keeps (fun _ _ h => h.next (start delay))
      exact ⟨attended delay, [], .start, fun fired => absurd ((start delay).fired fired).last
        (by rintro ⟨before, last, same, _⟩; simp at same)⟩
    exact punctual.report (start delay) (over_of_next_eq_none (next_run limit (poll delay))).1
  · intro d₁ d₂ n₁ n₂ r₁ r₂ ordered report₁ report₂
    have later (x : Nat) : Trigger.Due d₂ x → Trigger.Due (some d₁) x := by
      rintro ⟨d, hd, due⟩
      exact ⟨d₁, rfl, Nat.le_trans (ordered d hd) due⟩
    -- With a report a run has come to its end, so both limits may be replaced by the greater one.
    have beside : Beside (some d₁) d₂ ((first (some d₁)).run n₁) ((first d₂).run n₂) := by
      have other : first d₂ = (first (some d₁)).rearm d₂ := by
        cases cancelled <;> rfl
      have armed : (first (some d₁)).trigger = .ofDelay (some d₁) := by
        cases cancelled <;> rfl
      rw [← run_of_report (Nat.le_max_left n₁ n₂) (poll _) report₁,
        ← run_of_report (Nat.le_max_right n₁ n₂) (poll _) report₂, other]
      exact run_rearm (max n₁ n₂) armed (poll _) later
    have coherent (delay : Option Duration) (n : Nat) :
        Coherent (firstLayer plan.mode g) (ScriptStep.ids stream.steps) ((first delay).run n) :=
      ((inOrder_begun { plan with cancelAfter := delay } attempt stream around opened g cancelled
        0).reaches (unfolds_run n _).reaches).toCoherent
    have received := beside.delivered_prefix
    refine ⟨?_, ?_, fun unfired => ?_⟩
    · obtain ⟨_, _, _, rfl⟩ := report_eq_some report₁
      obtain ⟨_, _, _, rfl⟩ := report_eq_some report₂
      calc ((first (some d₁)).run n₁).count = _ := (coherent _ _).count
        _ ≤ _ := received.length_le
        _ = ((first d₂).run n₂).count := (coherent _ _).count.symm
    · rw [(coherent _ _).acknowledged_eq, (coherent _ _).acknowledged_eq]
      exact produced_prefix _ received
    · have same := beside.report_eq unfired
      rw [report₁, report₂] at same
      exact (Option.some.inj same).symm

/-- Seven messages arrive at once, the channels hold one acknowledgement each, and the peer reads
one after five ticks, one after ten, and hangs up after fifteen. The fifth message has to wait five
ticks for its acknowledgement, and the sixth one ten, so a delay of four ticks ends the session at
the fifth and one of nine at the sixth. -/
theorem auto_cancel_waiting :
    let plan : SessionPlan := ⟨.reliable ⟨⟨0⟩, some 11⟩, none, .ofMillis 500, 1⟩
    let stream : StreamScript := ⟨[StreamScript.message 7 [], StreamScript.message 7 [],
      StreamScript.message 5 [], StreamScript.message 9 [], StreamScript.message 2 [],
      StreamScript.message 4 [], StreamScript.message 6 []], .close⟩
    let around : Surroundings := { Surroundings.quiet with
      plan := .follow [⟨.ofMillis 5, .await⟩, ⟨.ofMillis 5, .take 1⟩, ⟨.ofMillis 5, .leave⟩] }
    let last (delay : Option Duration) :=
      (begun { plan with cancelAfter := delay } 1 stream around .origin (.ofSeed 12) false).run 1000
    let four := last (some (.ofMillis 4))
    let nine := last (some (.ofMillis 9))
    four.trigger.fired = true ∧ four.delivered = [7, 7, 5, 9, 2] ∧
      four.acknowledged = [7, 5, 9, 2] ∧ nine.acknowledged = [7, 5, 9, 2, 4] ∧
      (∃ seen, seen.length = 5 ∧ four.delivered = seen.map Sighting.id ∧
        (∃ o ∈ seen, Trigger.Due (some (.ofMillis 4)) o.elapsed) ∧
        ∃ before o r, seen = before ++ [o] ∧ four.report? = some r ∧ r.messageCount = 5 ∧
          r.elapsed = o.elapsed) ∧
      (∀ s', Reaches four s' → Rests four s') ∧
      four.acknowledged <+: nine.acknowledged ∧
      (last (some (.ofMillis 30))).report? = (last none).report? := by
  intro plan stream around last four nine
  have h := auto_cancel plan 1 stream around .origin (.ofSeed 12) false
  have fired : four.trigger.fired = true := by decide +kernel
  have count : four.count = 5 := by decide +kernel
  have reported (delay : Option Duration) (report : (last delay).report?.isSome = true) :
      ∃ r, (last delay).report? = some r := Option.isSome_iff_exists.mp report
  obtain ⟨seen, chronicle, ends⟩ := h.2.2.1 (some (.ofMillis 4)) 1000
  obtain ⟨counted, ⟨unseen, delivered, _⟩, exactly, _, _, after⟩ := h.2.1 _ seen four chronicle
  obtain ⟨_, _, all, rests⟩ := after fired
  have length : seen.length = 5 := all.symm.trans count
  refine ⟨fired, by decide +kernel, by decide +kernel, by decide +kernel,
    ⟨seen, length, ?_, exactly.mp fired, ?_⟩, rests, ?_, ?_⟩
  · have allSeen : unseen = [] := by
      have total := congrArg List.length delivered
      rw [← counted, all, List.length_append, List.length_map] at total
      exact List.eq_nil_of_length_eq_zero (by omega)
    rw [delivered, allSeen, List.append_nil]
  · obtain ⟨r, before, o, same, report, _, messages, elapsed⟩ := ends fired
    exact ⟨before, o, r, same, report, messages.trans length, elapsed⟩
  · obtain ⟨r₁, report₁⟩ := reported (some (.ofMillis 4)) (by decide +kernel)
    obtain ⟨r₂, report₂⟩ := reported (some (.ofMillis 9)) (by decide +kernel)
    have ordered : ∀ d, some (Duration.ofMillis 9) = some d →
        (Duration.ofMillis 4).nanos ≤ d.nanos := by
      rintro _ ⟨rfl⟩
      decide
    exact (h.2.2.2 _ _ 1000 1000 r₁ r₂ ordered report₁ report₂).2.1
  · obtain ⟨r₁, report₁⟩ := reported (some (.ofMillis 30)) (by decide +kernel)
    obtain ⟨r₂, report₂⟩ := reported none (by decide +kernel)
    have same := (h.2.2.2 (.ofMillis 30) none 1000 1000 r₁ r₂ nofun report₁ report₂).2.2
      (by decide +kernel)
    rw [report₁, report₂, same]

end Session

end DuplexStream
