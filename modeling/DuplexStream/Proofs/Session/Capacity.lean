import DuplexStream.Proofs.Session.Forecast

/-!
# How many acknowledgements a session can hold

When the peer reads nothing, a reliable session has room for twice the capacity of a channel and one
more: the outbound queue, the acknowledgement that the write loop is sending, and the queue between
the loops. As long as the layer produces no more than that, the session reads and ends as a plain
one does. The acknowledgement after that stalls it for good.
-/

namespace DuplexStream

theorem Layer.acked_deliver {γ : Type} [Generator γ] (l : Layer γ) (id : UInt64) :
    (l.deliver id).2.tally.acked = l.tally.acked + (ackOf (l.deliver id).1 id).length := by
  rcases l.deliver_cases id with ⟨_, he⟩ | ⟨_, g, he⟩ | ⟨_, g, he⟩ <;> simp [he, ackOf]

/-- How a reliable reading follows a plain one: up to the end if there is room for everything, and
otherwise up to the message whose acknowledgement is the first without room. -/
structure Follows (o : Outside) (l : Layer Seeded) (plain full : Foreseen) : Prop where
  agrees : l.tally.acked + (l.deliverAll plain.1).1.length ≤ o.room → full = plain
  stalls : o.room < l.tally.acked + (l.deliverAll plain.1).1.length →
    ∃ before id after, plain.1 = before ++ id :: after ∧ full = (before ++ [id], o.request) ∧
      l.tally.acked + (l.deliverAll before).1.length = o.room ∧
      ((l.deliverAll before).2.deliver id).1 = .acknowledged

section Following

variable {o : Outside} {l : Layer Seeded} {plain full : Foreseen}

theorem follows_of_nothing (room : l.tally.acked ≤ o.room) (nothing : plain.1 = []) :
    Follows o l plain plain where
  agrees := fun _ => rfl
  stalls := by
    intro more
    rw [nothing] at more
    exact absurd (Nat.lt_of_lt_of_le more room) (Nat.lt_irrefl _)

/-- A message that there is room for. -/
theorem Follows.cons {id : UInt64} (h : Follows o (l.deliver id).2 plain full) :
    Follows o l (id :: plain.1, plain.2) (id :: full.1, full.2) := by
  have total (ids : List UInt64) : l.tally.acked + (l.deliverAll (id :: ids)).1.length =
      (l.deliver id).2.tally.acked + ((l.deliver id).2.deliverAll ids).1.length := by
    rw [Layer.deliverAll_cons, Layer.acked_deliver, List.length_append, Nat.add_assoc]
  refine ⟨fun enough => ?_, fun more => ?_⟩
  · rw [total] at enough
    rw [h.agrees enough]
  · rw [total] at more
    obtain ⟨before, last, after, hplain, hfull, hroom, hlast⟩ := h.stalls more
    refine ⟨id :: before, last, after, ?_, ?_, ?_, ?_⟩
    · rw [hplain, List.cons_append]
    · rw [hfull, List.cons_append]
    · rw [total]
      exact hroom
    · rw [Layer.deliverAll_cons]
      exact hlast

/-- A message whose acknowledgement has no room. -/
theorem follows_of_stall {id : UInt64} (room : l.tally.acked ≤ o.room)
    (stall : stalls o.room (some l) id = true) (rest : List UInt64)
    (finish : Option (Ending × Nat)) : Follows o l (id :: rest, finish) ([id], o.request) := by
  simp only [DuplexStream.stalls, Bool.and_eq_true, decide_eq_true_eq] at stall
  obtain ⟨verdict, more⟩ := stall
  have hone : (Layer.ackOf (l.deliver id).1 id).length = 1 := by simp [Layer.ackOf, verdict]
  have hacked := l.acked_deliver id
  refine ⟨fun enough => ?_, fun _ => ⟨[], id, rest, rfl, rfl, ?_, verdict⟩⟩
  · rw [Layer.deliverAll_cons, List.length_append] at enough
    omega
  · change l.tally.acked + 0 = o.room
    omega

end Following

/-- A reliable reading follows the plain one from every state of the script and the clock. -/
theorem Outside.foresee_follows (o : Outside) (steps : List ScriptStep) (wake : Option Nat)
    (now : Nat) (l : Layer Seeded) (room : l.tally.acked ≤ o.room) :
    Follows o l (o.foresee steps wake now none) (o.foresee steps wake now (some l)) := by
  induction steps generalizing wake now l with
  | nil =>
      apply follows_of_nothing room
      simp only [foresee]
      cases o.finish <;> rfl
  | cons step rest ih =>
      cases step with
      | wait d =>
          simp only [foresee]
          split
          · exact follows_of_nothing room rfl
          · split
            · exact follows_of_nothing room rfl
            · exact ih none _ l room
      | send e =>
          cases hd : e.data? with
          | none =>
              simp only [foresee, hd]
              exact ih none now l room
          | some m =>
              have plain : stalls o.room none m.id = false := rfl
              cases hs : stalls o.room (some l) m.id with
              | true =>
                  simp only [foresee, hd, plain, hs, Bool.false_eq_true, if_false, if_true]
                  exact follows_of_stall room hs _ _
              | false =>
                  simp only [foresee, hd, plain, hs, Bool.false_eq_true, if_false, Option.map_none,
                    Option.map_some]
                  have next : (l.deliver m.id).2.tally.acked ≤ o.room := by
                    have hacked := l.acked_deliver m.id
                    simp only [stalls, Bool.and_eq_false_iff, decide_eq_false_iff_not] at hs
                    rcases hs with withheld | fits
                    · simp only [Layer.ackOf, withheld, if_false, List.length_nil] at hacked
                      omega
                    · omega
                  apply Follows.cons
                  unfold goOn
                  split
                  · exact follows_of_nothing next rfl
                  · exact ih none now _ next

namespace Session

section Start

variable (plan : SessionPlan) (attempt : Nat) (stream : StreamScript) (around : Surroundings)
  (opened : Moment) (g : Seeded) (cancelled : Bool)

theorem predictable_begun (unread : around.plan = .ignore) (n : Nat) :
    Predictable plan.mode g (ScriptStep.ids stream.steps) plan.channelBuffer (opened.tick + n)
      (begun plan attempt stream around opened g cancelled) := by
  have accounted := accounted_begun plan attempt stream around opened g cancelled unread
  refine { accounted with toTimely := ?_, fired := ?_ }
  · cases cancelled with
    | false => exact timely_receiving (Nat.le_add_right _ _) rfl rfl nofun
    | true => exact timely_receiving (Nat.le_add_right _ _) rfl rfl nofun
  · cases cancelled <;> nofun

theorem one_le_poll_begun :
    1 ≤ (begun plan attempt stream around opened g cancelled).writer.poll := by
  cases cancelled <;> exact Nat.le_max_left 1 plan.writePoll.ticks

theorem attended_begun : Attended (begun plan attempt stream around opened g cancelled) := by
  have started := (attended_start plan attempt stream around opened).drawingFrom g
  cases cancelled with
  | false => exact started
  | true => exact ⟨started.done, started.senders, rfl⟩

/-- The whole future of a plain session and of a reliable one with the same settings. -/
theorem foretold_begun_follows {model : LossModel} (reliable : plan.mode = .reliable model)
    (limit : Nat) :
    let first := begun plan attempt stream around opened g cancelled
    let plain := begun { plan with mode := .plain } attempt stream around opened g cancelled
    Follows (first.outside limit) (.start model.dropProbability g) (plain.foretold limit)
      (first.foretold limit) := by
  intro first plain
  have hroom : (Layer.start model.dropProbability g).tally.acked ≤ (first.outside limit).room :=
    Nat.zero_le _
  have receiving : first.reading = .receiving ∧ plain.reading = .receiving := by
    cases cancelled <;> exact ⟨rfl, rfl⟩
  have log : first.delivered = [] ∧ plain.delivered = [] := by
    cases cancelled <;> exact ⟨rfl, rfl⟩
  have now : first.now = opened.tick ∧ plain.now = opened.tick := by
    cases cancelled <;> exact ⟨rfl, rfl⟩
  have same : plain.outside limit = first.outside limit ∧ plain.inbound = first.inbound ∧
      plain.stop? = first.stop? := by
    cases cancelled <;> exact ⟨rfl, rfl, rfl⟩
  have layers : first.layer = some (.start model.dropProbability g) ∧ plain.layer = none := by
    cases cancelled <;> simp [first, plain, begun, start, drawingFrom, requestCancel, startLayer,
      reliable, LossModel.layer, Layer.start]
  cases hs : first.stop? with
  | some t =>
      have going : ∀ t, first.reading ≠ .ended t := by simp [receiving.1]
      have going' : ∀ t, plain.reading ≠ .ended t := by simp [receiving.2]
      rw [foretold_stopped limit going hs, foretold_stopped limit going' (same.2.2.trans hs),
        log.1, log.2, now.1, now.2]
      exact follows_of_nothing hroom rfl
  | none =>
      rw [foretold_receiving receiving.1 hs, foretold_receiving receiving.2 (same.2.2.trans hs),
        log.1, log.2, List.nil_append, List.nil_append, ahead, ahead, same.1, same.2.1, layers.1,
        layers.2, now.1, now.2]
      exact (first.outside limit).foresee_follows _ _ _ _ hroom

end Start

variable {mode : AckMode} {g : Seeded} {script : List UInt64} {capacity limit : Nat} {s : Session}

/-- A session that has produced more than there is room for waits with the last acknowledgement,
until it is asked to stop. -/
theorem Predictable.stalled (h : Predictable mode g script capacity limit s)
    {acks : List UInt64} {id : UInt64}
    (verdicts : produced (firstLayer mode g) s.delivered = acks ++ [id])
    (more : acks.length = 2 * capacity + 1) :
    s.trigger.fired = false ∧ (s.reading = .queueing id ∨ ∃ t, s.reading = .ended t) := by
  have hacked : ackedOf s.layer = 2 * capacity + 2 := by
    rw [h.toCoherent.acked_eq, verdicts, List.length_append, more]
    rfl
  refine ⟨?_, ?_⟩
  · rw [← Bool.not_eq_true]
    intro fired
    have := (h.fired fired).2
    omega
  · cases hr : s.reading with
    | ended t => exact Or.inr ⟨t, rfl⟩
    | receiving =>
        have := h.acked_le_of_receiving hr
        omega
    | queueing a =>
        have going : ∀ t, s.reading ≠ .ended t := by simp [hr]
        have complete := h.complete (h.unread.going going).live going
        simp only [pending, hr, verdicts] at complete
        have hlast := (List.append_inj' complete rfl).2
        rw [List.cons.inj hlast |>.1]
        exact Or.inl rfl

/-- A reliable session whose peer reads nothing, beside the plain session with the same script and
timers. Whatever acknowledgements the layer produces on what the plain session reads: if there are
at most `2 * channelBuffer + 1` of them, both sessions read the same messages and report the same;
if there are more, the reliable one stalls on the message of the first acknowledgement beyond. That
message is counted, nothing is read after it, the trigger does not fire, and only a request from
outside brings a report. -/
theorem reliable_follows_plain (plan : SessionPlan) (model : LossModel)
    (reliable : plan.mode = .reliable model) (room : 1 ≤ plan.channelBuffer) (attempt : Nat)
    (stream : StreamScript) (around : Surroundings) (unread : around.plan = .ignore)
    (opened : Moment) (g : Seeded) (cancelled : Bool) (n : Nat) :
    let first := begun plan attempt stream around opened g cancelled
    let full := first.run (opened.tick + n)
    let plain := (begun { plan with mode := .plain } attempt stream around opened g cancelled).run
      (opened.tick + n)
    let acks (ids : List UInt64) := ((Layer.start model.dropProbability g).deliverAll ids).1
    ((acks plain.delivered).length ≤ 2 * plan.channelBuffer + 1 →
      full.delivered = plain.delivered ∧
      full.report?.map Report.brief = plain.report?.map Report.brief) ∧
    (2 * plan.channelBuffer + 2 ≤ (acks plain.delivered).length →
      ∃ before id after, plain.delivered = before ++ id :: after ∧
        (acks before).length = 2 * plan.channelBuffer + 1 ∧
        acks (before ++ [id]) = acks before ++ [id] ∧
        full.delivered = before ++ [id] ∧
        full.count = before.length + 1 ∧
        full.trigger.fired = false ∧
        full.report?.map Report.brief =
          (first.request? (opened.tick + n)).map (fun request =>
            (request.1.outcome false, before.length + 1, request.2 - opened.tick, none)) ∧
        (first.request? (opened.tick + n) = none → full.reading = .queueing id) ∧
        (∀ t, full.reading = .ended t →
          ∃ tick, first.request? (opened.tick + n) = some (t, tick))) := by
  intro first full plain acks
  have predictable := predictable_begun plan attempt stream around opened g cancelled unread n
  have predictablePlain := predictable_begun { plan with mode := .plain } attempt stream around
    opened g cancelled unread n
  obtain ⟨hdelivered, hreport⟩ := predictable.run room (one_le_poll_begun ..)
  obtain ⟨hdeliveredPlain, hreportPlain⟩ := predictablePlain.run room (one_le_poll_begun ..)
  have follows := foretold_begun_follows plan attempt stream around opened g cancelled reliable
    (opened.tick + n)
  have hroom : (first.outside (opened.tick + n)).room = 2 * plan.channelBuffer + 1 := by
    have hcapacity : first.writer.queue.capacity = plan.channelBuffer :=
      predictable.unread.writer.queueCapacity
    simp only [outside, hcapacity]
  have hopened : first.openedAt = opened.tick := by cases cancelled <;> rfl
  have hopenedPlain : (begun { plan with mode := .plain } attempt stream around opened g
      cancelled).openedAt = opened.tick := by
    cases cancelled <;> rfl
  have hacks : (Layer.start model.dropProbability g).tally.acked = 0 := rfl
  rw [hopened] at hreport
  rw [hopenedPlain] at hreportPlain
  refine ⟨fun enough => ?_, fun more => ?_⟩
  · have same := follows.agrees (by
      rw [hacks, hroom, ← hdeliveredPlain]
      simpa [acks] using enough)
    refine ⟨?_, ?_⟩
    · rw [hdelivered, hdeliveredPlain]
      exact congrArg Prod.fst same
    · rw [hreport, hreportPlain]
      exact congrArg (Foreseen.brief opened.tick) same
  · obtain ⟨before, id, after, hbefore, hstall, hfit, hlast⟩ := follows.stalls (by
      rw [hacks, hroom, ← hdeliveredPlain]
      change _ < 0 + (acks plain.delivered).length
      omega)
    rw [hacks, hroom, Nat.zero_add] at hfit
    have hproduced : acks (before ++ [id]) = acks before ++ [id] := by
      simp only [acks, Layer.deliverAll_concat, Layer.ackOf, hlast, if_true]
    have hread : full.delivered = before ++ [id] := hdelivered.trans (congrArg Prod.fst hstall)
    obtain ⟨last, hforetold⟩ := predictable.unfolds room (unfolds_run (opened.tick + n) first)
    have hlayer : produced (firstLayer plan.mode g) full.delivered = acks before ++ [id] := by
      simp only [firstLayer, reliable, produced, hread, Option.map_some, Option.getD_some]
      exact hproduced
    obtain ⟨unfired, stuck⟩ := last.stalled hlayer hfit
    have hcount : full.count = before.length + 1 := by
      have := last.count
      rw [hread, List.length_append, List.length_singleton] at this
      exact this
    have asked (t : Ending) (ended : full.reading = .ended t) :
        first.request? (opened.tick + n) = some (t, full.now) := by
      rw [foretold_ended _ ended, hstall] at hforetold
      exact (congrArg Prod.snd hforetold).symm
    refine ⟨before, id, after, hdeliveredPlain.trans hbefore, hfit, hproduced, hread, hcount,
      unfired, ?_, fun calm => ?_, fun t ended => ⟨full.now, asked t ended⟩⟩
    · rw [hreport]
      refine (congrArg (Foreseen.brief opened.tick) hstall).trans ?_
      refine Option.map_congr fun request hrequest => ?_
      have kind := (request_eq_some hrequest).2.2
      have hdetail : request.1.detail? = none := by
        rcases kind with kind | kind <;> rw [kind] <;> rfl
      simp only [List.length_append, List.length_singleton, hdetail]
    · rcases stuck with queueing | ⟨t, ended⟩
      · exact queueing
      · simp [asked t ended] at calm

/-- Channels for one message have room for three acknowledgements. With three messages the session
ends as a plain one does; with a fourth one it is cancelled while it is stalled. -/
theorem reliable_follows_plain_until_stalled :
    let plan : SessionPlan := ⟨.reliable ⟨⟨0⟩, some 11⟩, none, .ofMillis 500, 1⟩
    let three : List ScriptStep := [StreamScript.message 7 [], StreamScript.message 5 [],
      .wait (.ofMillis 3), StreamScript.message 9 []]
    let four : List ScriptStep := three ++ [StreamScript.message 2 [], StreamScript.message 8 []]
    let around : Surroundings := { Surroundings.quiet with cancelAt := some 20 }
    let g : Seeded := .ofSeed 12
    let first (steps : List ScriptStep) := begun plan 1 ⟨steps, .close⟩ around .origin g false
    let plain (steps : List ScriptStep) :=
      begun { plan with mode := .plain } 1 ⟨steps, .close⟩ around .origin g false
    ((first three).run 1000).report?.map Report.brief =
        ((plain three).run 1000).report?.map Report.brief ∧
      ((plain three).run 1000).report?.map Report.brief = some (.completed, 3, 3, none) ∧
      ((first four).run 1000).report?.map Report.brief =
        some (.failed .intentionalCancel, 4, 20, none) ∧
      ((plain four).run 1000).report?.map Report.brief = some (.completed, 5, 3, none) := by
  intro plan three four around g first plain
  have small := reliable_follows_plain plan ⟨⟨0⟩, some 11⟩ rfl (by decide) 1 ⟨three, .close⟩ around
    rfl .origin g false 1000
  have large := reliable_follows_plain plan ⟨⟨0⟩, some 11⟩ rfl (by decide) 1 ⟨four, .close⟩ around
    rfl .origin g false 1000
  have enough := (small.1 (by decide +kernel)).2
  obtain ⟨before, id, after, _, _, _, _, hcount, _, hreport, _⟩ := large.2 (by decide +kernel)
  have hfour : ((first four).run 1000).count = 4 := by decide +kernel
  have hrequest : (first four).request? 1000 = some (.localCancel, 20) := by decide +kernel
  have hlength : before.length + 1 = 4 := hcount.symm.trans hfour
  refine ⟨enough, by decide +kernel, hreport.trans ?_, by decide +kernel⟩
  rw [hlength]
  exact congrArg (Option.map fun r : Ending × Nat => (r.1.outcome false, 4, r.2 - 0, none)) hrequest

end Session

end DuplexStream
