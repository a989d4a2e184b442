import DuplexStream.Proofs.Session.Unread

/-!
# What a report counts

The counters of a report are kept in three places: the read loop counts messages, the layer counts
its verdicts, and the write loop counts what it has written. At the end of a session they fit
together. When the peer reads nothing, the acknowledgements that were written are as many as the
outbound queue has room for.
-/

namespace DuplexStream.Session

section Reports

variable {l₀ : Option (Layer Seeded)} {script : List UInt64} {kept : Nat} {s : Session} {r : Report}

theorem InOrder.messageCount_eq (h : InOrder l₀ script kept s) (report : s.report? = some r) :
    r.messageCount = s.delivered.length := by
  obtain ⟨t, _, _, rfl⟩ := report_eq_some report
  exact h.count

theorem InOrder.acksSent_le (h : InOrder l₀ script kept s) (report : s.report? = some r) :
    r.acksSent ≤ (produced l₀ s.delivered).length := by
  obtain ⟨t, _, _, rfl⟩ := report_eq_some report
  change s.writer.sent ≤ _
  rw [h.sent]
  exact ((written_prefix_handed s).trans h.handed_prefix).length_le

/-- A session without a layer has no verdicts. -/
theorem InOrder.counts_of_plain (h : InOrder none script kept s) (report : s.report? = some r) :
    r.acksSent = 0 ∧ r.drops = 0 ∧ r.duplicates = 0 := by
  have hsent : r.acksSent ≤ 0 := h.acksSent_le report
  obtain ⟨t, _, _, rfl⟩ := report_eq_some report
  have hlayer : s.layer = none := h.layer
  exact ⟨Nat.le_zero.mp hsent, by simp [tally, hlayer, Tally.zero],
    by simp [tally, hlayer, Tally.zero]⟩

/-- Every message has one verdict. -/
theorem InOrder.counts_of_layer {p : Binary64} {g : Seeded}
    (h : InOrder (some (.start p g)) script kept s) (report : s.report? = some r) :
    r.messageCount =
      (((Layer.start p g).deliverAll s.delivered).1.length + r.drops) + r.duplicates := by
  have record := Layer.record_deliverAll p g s.delivered
  have hlayer : s.layer = some ((Layer.start p g).deliverAll s.delivered).2 := h.layer
  have hcount := h.messageCount_eq report
  obtain ⟨t, _, _, rfl⟩ := report_eq_some report
  have hacked := record.tallyAcked
  have htotal := record.tallyTotal
  simp only [tally, hlayer] at hcount ⊢
  omega

/-- What was written when the peer reads nothing. -/
theorem Accounted.acksSent_eq {capacity : Nat} (h : Accounted l₀ script capacity s)
    (report : s.report? = some r) :
    r.acksSent = min (produced l₀ s.delivered).length capacity := by
  obtain ⟨t, ended, phase, rfl⟩ := report_eq_some report
  have hhanded : s.handed = s.written := by
    simp [handed, written, WriteLoop.handed, WriteLoop.held, phase]
  have hroom : s.written.length ≤ capacity := by
    rw [written, h.unread.writer.written]
    exact h.unread.writer.outbound
  calc s.writer.sent = s.written.length := h.sent
    _ = min s.written.length capacity := (Nat.min_eq_left hroom).symm
    _ = min (produced l₀ s.delivered).length capacity := by rw [← hhanded, h.atEnd t ended]

end Reports

/-- Every message of a reliable session is acknowledged, dropped or a duplicate, and no more
acknowledgements are written than the layer has produced, whatever order the moves come in. When the
peer reads nothing, as many are written as the outbound queue has room for, however the session
ends. A plain session counts nothing of all that. -/
theorem report_counts (plan : SessionPlan) (attempt : Nat) (stream : StreamScript)
    (around : Surroundings) (opened : Moment) (g : Seeded) (cancelled : Bool) :
    let first := begun plan attempt stream around opened g cancelled
    (∀ model, plan.mode = .reliable model → ∀ s r, Reaches first s → s.report? = some r →
      let acked := ((Layer.start model.dropProbability g).deliverAll s.delivered).1.length
      r.messageCount = acked + r.drops + r.duplicates ∧ r.acksSent ≤ acked) ∧
    (∀ model, plan.mode = .reliable model → around.plan = .ignore →
      ∀ limit s r, Unfolds limit first s → s.report? = some r →
        let acked := ((Layer.start model.dropProbability g).deliverAll s.delivered).1.length
        r.acksSent = min acked plan.channelBuffer) ∧
    (plan.mode = .plain → ∀ s r, Reaches first s → s.report? = some r →
      r.acksSent = 0 ∧ r.drops = 0 ∧ r.duplicates = 0) := by
  intro first
  have ordered := inOrder_begun plan attempt stream around opened g cancelled 0
  have hfirst {model : LossModel} (reliable : plan.mode = .reliable model) :
      firstLayer plan.mode g = some (.start model.dropProbability g) := by
    simp [firstLayer, reliable]
  refine ⟨?_, ?_, ?_⟩
  · intro model reliable s r hr report
    rw [hfirst reliable] at ordered
    have h := ordered.reaches hr
    exact ⟨h.counts_of_layer report, h.acksSent_le report⟩
  · intro model reliable unread limit s r hu report
    have accounted := accounted_begun plan attempt stream around opened g cancelled unread
    rw [hfirst reliable] at accounted
    exact (accounted.unfolds hu).acksSent_eq report
  · intro plain s r hr report
    have hnone : firstLayer plan.mode g = none := by simp [firstLayer, plain]
    rw [hnone] at ordered
    exact (ordered.reaches hr).counts_of_plain report

/-- Five messages of four ids; the session is cancelled while it is queueing the last of four
acknowledgements, and the outbound queue has room for one. -/
theorem report_counts_full :
    let plan : SessionPlan := ⟨.reliable ⟨⟨0⟩, some 11⟩, none, .ofMillis 500, 1⟩
    let stream : StreamScript := ⟨[StreamScript.message 7 [], StreamScript.message 7 [],
      StreamScript.message 5 [], .wait (.ofMillis 3), StreamScript.message 9 [],
      StreamScript.message 2 []], .close⟩
    let around : Surroundings := { Surroundings.quiet with cancelAt := some 20 }
    let g : Seeded := .ofSeed 12
    let last := (begun plan 1 stream around .origin g false).run 1000
    let plain := (begun { plan with mode := .plain } 1 stream around .origin g false).run 1000
    (∃ r, last.report? = some r ∧
      ((Layer.start ⟨0⟩ g).deliverAll last.delivered).1.length = 4 ∧
      r.messageCount = 4 + r.drops + r.duplicates ∧ r.acksSent = min 4 1) ∧
    ∃ r, plain.report? = some r ∧ r.acksSent = 0 ∧ r.drops = 0 ∧ r.duplicates = 0 := by
  intro plan stream around g last plain
  have h := report_counts plan 1 stream around .origin g false
  have hplain := report_counts { plan with mode := .plain } 1 stream around .origin g false
  have hlast : Unfolds 1000 (begun plan 1 stream around .origin g false) last := unfolds_run _ _
  have hacked : ((Layer.start ⟨0⟩ g).deliverAll last.delivered).1.length = 4 := by decide +kernel
  obtain ⟨r, report⟩ : ∃ r, last.report? = some r :=
    Option.isSome_iff_exists.mp (by decide +kernel)
  obtain ⟨q, reportPlain⟩ : ∃ q, plain.report? = some q :=
    Option.isSome_iff_exists.mp (by decide +kernel)
  have counts := (h.1 _ rfl last r hlast.reaches report).1
  have sent := h.2.1 _ rfl rfl 1000 last r hlast report
  simp only [hacked] at counts sent
  exact ⟨⟨r, report, hacked, counts, sent⟩, q, reportPlain,
    hplain.2.2 rfl plain q (unfolds_run _ _).reaches reportPlain⟩

end DuplexStream.Session
