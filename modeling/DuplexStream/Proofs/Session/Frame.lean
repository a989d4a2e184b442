import DuplexStream.Proofs.Session.SideBySide
import DuplexStream.Proofs.Session.Termination

/-!
# What the read loop leaves aside

The read loop looks at its own state, the stream, the requests, and the queue of the write loop. All
the rest is `Session.Aside`. Moves of the read loop neither depend on it nor change it, so two
sessions that differ only there read side by side.
-/

namespace DuplexStream.Session

/-- The parts of a session that the read loop does not use. -/
structure Aside where
  turn : Turn
  settled : Bool
  cancelAt : Option Nat
  shutdownAt : Option Nat
  peer : Peer
  poll : Nat
  outbound : Queue UInt64
  phase : Writing
  sent : Nat
  written : List UInt64

/-- What the read loop does not use of this session. -/
def aside (s : Session) : Aside where
  turn := s.turn
  settled := s.settled
  cancelAt := s.cancelAt
  shutdownAt := s.shutdownAt
  peer := s.peer
  poll := s.writer.poll
  outbound := s.writer.outbound
  phase := s.writer.phase
  sent := s.writer.sent
  written := s.writer.written

/-- The session with other parts that the read loop does not use. -/
def setAside (s : Session) (o : Aside) : Session :=
  { s with
    turn := o.turn
    settled := o.settled
    cancelAt := o.cancelAt
    shutdownAt := o.shutdownAt
    peer := o.peer
    writer := { s.writer with
      poll := o.poll
      outbound := o.outbound
      phase := o.phase
      sent := o.sent
      written := o.written } }

@[simp] theorem aside_setAside (s : Session) (o : Aside) : (s.setAside o).aside = o := rfl

@[simp] theorem setAside_aside (s : Session) : s.setAside s.aside = s := rfl

/-- Every move of the read loop passes through a change of what it leaves aside. -/
theorem sideBySide_setAside (o : Aside) :
    SideBySide (fun s t => t = s.setAside o) fun s t => t = s.setAside o where
  alike side := side ▸ ⟨rfl, rfl, rfl, rfl, rfl⟩
  ending _ side := side ▸ rfl
  message side := side ▸ afterMessage_map (fun s => s.setAside o) rfl rfl rfl rfl
  layered _ side := side ▸ rfl
  withheld _ _ _ side := side ▸ rfl
  queueing _ side := side ▸ rfl
  queued _ _ side := side ▸ rfl
  refused _ side := side ▸ rfl

theorem answered_setAside (s : Session) (o : Aside) (answer : Arrival) :
    Option.Rel (fun s t => t = s.setAside o) (s.answered answer)
    ((s.setAside o).answered answer) := by
  cases answer with
  | item e rest =>
      cases e with
      | data m =>
          have side := (sideBySide_setAside o).acknowledge (s := s.taking m rest) rfl m.id
          exact .some side
      | ack | empty => exact .some rfl
  | status | closed | moved => exact .some rfl
  | pending => exact .none

/-- The read loop does not use what it leaves aside. -/
theorem readStep_setAside (s : Session) (o : Aside) :
    (s.setAside o).readStep = s.readStep.map fun s' => s'.setAside o := by
  apply eq_map_of_rel
  apply (sideBySide_setAside o).readStep rfl
  intro _ _
  exact s.answered_setAside o (s.inbound.poll s.now)

/-- The read loop does not change what it leaves aside. -/
theorem aside_of_readStep {s s' : Session} (h : s.readStep = some s') : s'.aside = s.aside := by
  have side := readStep_setAside s s.aside
  rw [setAside_aside, h, Option.map_some] at side
  calc s'.aside = (s'.setAside s.aside).aside := congrArg aside (Option.some.inj side)
    _ = s.aside := aside_setAside s' s.aside

/-- Changes to what the read loop leaves aside may come before its move or after it. -/
theorem readStep_onAside (s : Session) (f : Aside → Aside) :
    (s.setAside (f s.aside)).readStep = s.readStep.map fun s' => s'.setAside (f s'.aside) := by
  rw [readStep_setAside]
  refine Option.map_congr fun s' move => ?_
  rw [aside_of_readStep move]

end DuplexStream.Session
