import DuplexStream.Proofs.Session.Acknowledgements
import DuplexStream.Proofs.Session.Frame

/-!
# The order of acknowledgements

The acknowledgements that reach the stream to the peer are the first ones that the layer has
produced, in the same order, and the report counts exactly them. The peer finds exactly them too,
unless it hangs up. This holds of a session in any order of moves, so of every run.
-/

namespace DuplexStream.Session

/-- The layer of a fresh session whose draws come from a given source. -/
def firstLayer (mode : AckMode) (g : Seeded) : Option (Layer Seeded) :=
  match mode with
  | .plain => none
  | .reliable model => some (.start model.dropProbability g)

section Passing

variable {s s' : Session}

/-- No move loses anything of what has been written, but for the hang-up of the peer. -/
theorem Passed.move (passed : s.Passed) (move : Move s s') : s'.Passed := by
  cases move with
  | read move =>
      have aside := aside_of_readStep move
      have outbound : s'.writer.outbound = s.writer.outbound := congrArg Aside.outbound aside
      have peer : s'.peer = s.peer := congrArg Aside.peer aside
      rw [Session.Passed, peer]
      exact passed.congr (congrArg Aside.written aside) (congrArg Queue.items outbound)
        (congrArg Queue.listening outbound)
  | write move =>
      obtain ⟨w, events, hw, rfl⟩ := writeStep_eq_some move
      exact passed.step hw
  | take n => exact passed.take n
  | hangUp => exact passed.hangUp
  | cancel | shutDown | pass | plan => exact passed

theorem Passed.reaches (passed : s.Passed) (hr : Reaches s s') : s'.Passed :=
  hr.keeps (fun _ _ => Passed.move) passed

end Passing

section Start

variable (plan : SessionPlan) (attempt : Nat) (stream : StreamScript) (around : Surroundings)
  (opened : Moment) (g : Seeded)

/-- A session draws from the source of its own model unless another one is given. -/
theorem start_drawingFrom {model : LossModel} (reliable : plan.mode = .reliable model) :
    (start plan attempt stream around opened).drawingFrom
      (model.generator around.entropy attempt) = start plan attempt stream around opened := by
  simp [start, drawingFrom, startLayer, reliable, LossModel.layer, Layer.start]

theorem inOrder_start (kept : Nat) :
    InOrder (firstLayer plan.mode g) (ScriptStep.ids stream.steps) kept
      ((start plan attempt stream around opened).drawingFrom g) := by
  have hlayer : ((start plan attempt stream around opened).drawingFrom g).layer =
      firstLayer plan.mode g := by
    cases hm : plan.mode with
    | plain => simp [start, drawingFrom, startLayer, firstLayer, hm]
    | reliable model =>
        simp [start, drawingFrom, startLayer, firstLayer, hm, LossModel.layer, Layer.start]
  have hhanded : ((start plan attempt stream around opened).drawingFrom g).handed = [] := by
    rfl
  refine ⟨⟨rfl, ?_, rfl, rfl, fun _ => rfl, fun _ => rfl, ?_⟩, ?_, ?_⟩
  · rw [hlayer]
    cases plan.mode <;> rfl
  · rw [hhanded]
    exact List.nil_prefix
  · intro _ _
    rw [hhanded]
    cases plan.mode <;> rfl
  · intro t ended
    cases ended

/-- A peer has been sent nothing at first. -/
theorem passed_start : ((start plan attempt stream around opened).drawingFrom g).Passed := by
  have unsent : (Peer.ofPlan around.plan opened.tick).taken = [] ∧
      ((Peer.ofPlan around.plan opened.tick).openQueue plan.channelBuffer).items = [] := by
    cases around.plan <;> exact ⟨rfl, rfl⟩
  have nothing : (Peer.ofPlan around.plan opened.tick).taken ++
      ((Peer.ofPlan around.plan opened.tick).openQueue plan.channelBuffer).items = [] := by
    rw [unsent.1, unsent.2, List.append_nil]
  exact ⟨nothing ▸ List.nil_prefix, fun _ => nothing⟩

end Start

/-- Whatever order the moves come in, what has reached the stream to the peer is a beginning of what
the layer has produced on the messages received so far: in the order of the first deliveries,
without a gap, without a repetition, and without an id that was dropped. The report counts it. It is
what the peer has taken and what is queued for it, which is the beginning of it that the peer has
taken once the peer has hung up. -/
theorem written_prefix_deliverAll (plan : SessionPlan) (model : LossModel)
    (reliable : plan.mode = .reliable model) (attempt : Nat) (stream : StreamScript)
    (around : Surroundings) (opened : Moment) (g : Seeded) :
    let begun := (start plan attempt stream around opened).drawingFrom g
    let layer := Layer.start model.dropProbability g
    (∀ limit, Reaches begun (begun.run limit)) ∧
    ∀ s, Reaches begun s →
      s.written <+: (layer.deliverAll s.delivered).1 ∧
      s.peer.taken ++ s.writer.outbound.items <+: s.written ∧
      (s.writer.outbound.listening = true →
        s.peer.taken ++ s.writer.outbound.items = s.written) ∧
      (layer.deliverAll s.delivered).1.Sublist s.delivered.eraseDups ∧
      s.written.Nodup ∧
      (∀ id ∈ s.written, id ∈ s.delivered ∧ id ∉ (layer.deliverAll s.delivered).2.dropped) ∧
      s.delivered <+: ScriptStep.ids stream.steps ∧
      ∀ r, s.report? = some r → r.acksSent = s.written.length := by
  intro begun layer
  refine ⟨fun limit => (unfolds_run limit begun).reaches, fun s hr => ?_⟩
  have h : InOrder (firstLayer plan.mode g) (ScriptStep.ids stream.steps) 0 s :=
    (inOrder_start plan attempt stream around opened g 0).reaches hr
  have hproduced : produced (firstLayer plan.mode g) s.delivered =
      (layer.deliverAll s.delivered).1 := by
    simp [firstLayer, reliable, produced, layer]
  have record := Layer.record_deliverAll model.dropProbability g s.delivered
  have hbegin : s.written <+: (layer.deliverAll s.delivered).1 :=
    (written_prefix_handed s).trans (hproduced ▸ h.handed_prefix)
  have passed : s.Passed := (passed_start plan attempt stream around opened g).reaches hr
  refine ⟨hbegin, passed.missing, passed.all, record.firsts,
    record.nodup.sublist hbegin.sublist, ?_, ⟨_, h.played⟩, ?_⟩
  · intro id hid
    have hacked := hbegin.subset hid
    exact ⟨List.mem_eraseDups.mp (record.firsts.subset hacked), record.notDropped id hacked⟩
  · intro r report
    obtain ⟨t, _, _, rfl⟩ := report_eq_some report
    exact h.sent

/-- A session whose queues hold one acknowledgement each, stopped while its read loop is queueing
the fourth of four. -/
theorem written_prefix_deliverAll_full :
    let plan : SessionPlan := ⟨.reliable ⟨⟨0⟩, some 11⟩, none, .ofMillis 500, 1⟩
    let stream : StreamScript := ⟨[StreamScript.message 7 [], StreamScript.message 7 [],
      StreamScript.message 5 [], .wait (.ofMillis 3), StreamScript.message 9 [],
      StreamScript.message 2 []], .close⟩
    let around : Surroundings := { Surroundings.quiet with cancelAt := some 20 }
    let g : Seeded := .ofSeed 12
    let last := ((start plan 1 stream around .origin).drawingFrom g).run 1000
    last.written = [7] ∧ last.delivered = [7, 7, 5, 9, 2] ∧
      ((Layer.start ⟨0⟩ g).deliverAll last.delivered).1 = [7, 5, 9, 2] ∧
      last.report?.map Report.acksSent = some 1 ∧
      last.written <+: ((Layer.start ⟨0⟩ g).deliverAll last.delivered).1 := by
  intro plan stream around g last
  have h := written_prefix_deliverAll plan ⟨⟨0⟩, some 11⟩ rfl 1 stream around .origin g
  exact ⟨by decide +kernel, by decide +kernel, by decide +kernel, by decide +kernel,
    (h.2 last (h.1 1000)).1⟩

end DuplexStream.Session
