import DuplexStream.Proofs.Session.Moves
import Mathlib.Logic.Relation

/-!
# Sessions in any order of moves

A run gives the turns in a fixed order. `Session.Move` leaves the order open: either loop may move
whenever it can, a request may arrive between any two moves, the peer may take any number of
acknowledgements or hang up at any time, and the clock may go on by any number of ticks. What holds
of all sessions in `Session.Reaches` holds of every run. `Session.Unfolds` leaves open only which
loop moves first.
-/

namespace DuplexStream.Session

/-- The peer takes the first acknowledgements on their way to it. -/
def peerTakes (s : Session) (n : Nat) : Session :=
  { s with
    peer := { s.peer with taken := s.peer.taken ++ s.writer.outbound.items.take n }
    writer := { s.writer with
      outbound := { s.writer.outbound with items := s.writer.outbound.items.drop n } } }

/-- The peer lets go of its receiving half. -/
def peerHangsUp (s : Session) : Session :=
  { s with writer := { s.writer with outbound := s.writer.outbound.hangUp } }

/-- One move, in whatever order moves come. The last one changes only what is planned. -/
inductive Move : Session → Session → Prop
  | read {s s' : Session} (move : s.readStep = some s') : Move s s'
  | write {s s' : Session} (move : s.writeStep = some s') : Move s s'
  | cancel (s : Session) : Move s s.requestCancel
  | shutDown (s : Session) : Move s { s with shutdown := true }
  | take (s : Session) (n : Nat) : Move s (s.peerTakes n)
  | hangUp (s : Session) : Move s s.peerHangsUp
  | pass (s : Session) (ticks : Nat) : Move s { s with now := s.now + ticks }
  | plan (s : Session) (turn : Turn) (settled : Bool) (cancelAt shutdownAt : Option Nat)
      (rest : Nat) (phase : Listening) :
      Move s { s with
        turn := turn
        settled := settled
        cancelAt := cancelAt
        shutdownAt := shutdownAt
        peer := { s.peer with rest := rest, phase := phase } }

/-- A session that another one can become. -/
abbrev Reaches : Session → Session → Prop :=
  Relation.ReflTransGen Move

/-- What every move keeps holds of all that is reached. -/
theorem Reaches.keeps {P : Session → Prop} (hstep : ∀ s s', P s → Move s s' → P s')
    {s s' : Session} (h : Reaches s s') (hs : P s) : P s' := by
  induction h with
  | refl => exact hs
  | tail _ move ih => exact hstep _ _ ih move

/-- What moves never change, and the clock, which never goes back. -/
structure Continues (s s' : Session) : Prop where
  attempt : s'.attempt = s.attempt
  openedAt : s'.openedAt = s.openedAt
  poll : s'.writer.poll = s.writer.poll
  now_le : s.now ≤ s'.now

theorem Reads.continues {s s' : Session} (h : Reads s s') : Continues s s' := by
  have hafter (a : Session) : Continues a a.afterMessage := by
    rcases a.afterMessage_cases with ⟨_, he⟩ | ⟨_, he⟩
    · rw [he]
      exact ⟨rfl, rfl, rfl, Nat.le_refl _⟩
    · rw [he]
      exact ⟨rfl, rfl, rfl, Nat.le_refl _⟩
  have hsame {a b : Session} (h : Continues a b) (attempt : a.attempt = s.attempt)
      (openedAt : a.openedAt = s.openedAt) (poll : a.writer.poll = s.writer.poll)
      (now : a.now = s.now) : Continues s b :=
    ⟨h.attempt.trans attempt, h.openedAt.trans openedAt, h.poll.trans poll, now ▸ h.now_le⟩
  cases h with
  | data receiving calm arrival verdict =>
      cases verdict with
      | plain => exact hsame (hafter _) rfl rfl rfl rfl
      | passed => exact hsame (hafter _) rfl rfl rfl rfl
      | unwanted => exact hsame (hafter _) rfl rfl rfl rfl
      | queueing => exact ⟨rfl, rfl, rfl, Nat.le_refl _⟩
  | queued => exact hsame (hafter _) rfl rfl rfl rfl
  | refused => exact hsame (hafter _) rfl rfl rfl rfl
  | stopped => exact ⟨rfl, rfl, rfl, Nat.le_refl _⟩
  | closed => exact ⟨rfl, rfl, rfl, Nat.le_refl _⟩
  | failed => exact ⟨rfl, rfl, rfl, Nat.le_refl _⟩
  | moved => exact ⟨rfl, rfl, rfl, Nat.le_refl _⟩
  | ignored => exact ⟨rfl, rfl, rfl, Nat.le_refl _⟩

theorem Move.continues {s s' : Session} (h : Move s s') : Continues s s' := by
  cases h with
  | read move => exact (reads_of_readStep move).continues
  | write move =>
      obtain ⟨w, events, hw, rfl⟩ := writeStep_eq_some move
      have hpoll : w.poll = s.writer.poll := by
        cases hw <;> rfl
      exact ⟨rfl, rfl, hpoll, Nat.le_refl _⟩
  | pass ticks => exact ⟨rfl, rfl, rfl, Nat.le_add_right _ _⟩
  | cancel => exact ⟨rfl, rfl, rfl, Nat.le_refl _⟩
  | shutDown => exact ⟨rfl, rfl, rfl, Nat.le_refl _⟩
  | take => exact ⟨rfl, rfl, rfl, Nat.le_refl _⟩
  | hangUp => exact ⟨rfl, rfl, rfl, Nat.le_refl _⟩
  | plan => exact ⟨rfl, rfl, rfl, Nat.le_refl _⟩

theorem Reaches.continues {s s' : Session} (h : Reaches s s') : Continues s s' := by
  induction h with
  | refl => exact ⟨rfl, rfl, rfl, Nat.le_refl _⟩
  | tail _ move ih =>
      have next := move.continues
      exact ⟨next.attempt.trans ih.attempt, next.openedAt.trans ih.openedAt,
        next.poll.trans ih.poll, Nat.le_trans ih.now_le next.now_le⟩

section Turns

variable {limit : Nat} {s s' : Session}

private theorem reaches_turn (s : Session) (turn : Turn) : Reaches s { s with turn := turn } :=
  .single (.plan s turn s.settled s.cancelAt s.shutdownAt s.peer.rest s.peer.phase)

/-- The requests that arrive at the turn of the surroundings. -/
def arrive (s : Session) : Session :=
  { s with
    cancel := if isDue s.cancelAt s.now then s.cancel.cancel else s.cancel
    shutdown := s.shutdown || isDue s.shutdownAt s.now }

private theorem reaches_arrive (s : Session) : Reaches s s.arrive := by
  have shut : Reaches s { s with shutdown := s.shutdown || isDue s.shutdownAt s.now } := by
    cases hd : isDue s.shutdownAt s.now with
    | false => rw [Bool.or_false]
    | true =>
        rw [Bool.or_true]
        exact .single (.shutDown s)
  refine shut.trans ?_
  cases hd : isDue s.cancelAt s.now with
  | false => simp [arrive, hd, Relation.ReflTransGen.refl]
  | true =>
      refine (Relation.ReflTransGen.single (.cancel _)).trans ?_
      simp [arrive, hd, requestCancel, Relation.ReflTransGen.refl]

theorem reaches_settle (s : Session) : Reaches s s.settle := by
  refine (reaches_arrive s).trans ?_
  rcases Peer.act_cases s.peer s.now s.writer.outbound with ⟨n, rest, phase, he⟩ | ⟨phase, he⟩
  · refine (Relation.ReflTransGen.single (.take _ n)).trans (.single ?_)
    have := Move.plan (s.arrive.peerTakes n) .reader true (stillPlanned s.cancelAt s.now)
      (stillPlanned s.shutdownAt s.now) rest phase
    simpa [settle, he, arrive, peerTakes] using this
  · refine (Relation.ReflTransGen.single (.hangUp _)).trans (.single ?_)
    have := Move.plan s.arrive.peerHangsUp .reader true (stillPlanned s.cancelAt s.now)
      (stillPlanned s.shutdownAt s.now) s.peer.rest phase
    simpa [settle, he, arrive, peerHangsUp] using this

theorem reaches_advance (s : Session) (limit : Nat) : Reaches s (s.advance limit) := by
  have hle : s.now ≤ max (s.now + 1) (s.nextTick limit) := by omega
  obtain ⟨ticks, ht⟩ := Nat.exists_eq_add_of_le hle
  refine (Relation.ReflTransGen.single (.pass s ticks)).trans (.single ?_)
  have := Move.plan { s with now := s.now + ticks } .reader false s.cancelAt s.shutdownAt
    s.peer.rest s.peer.phase
  simpa [advance, ht] using this

/-- Every repetition of a run is made of moves. -/
theorem reaches_next (h : Next limit s s') : Reaches s s' := by
  cases h with
  | read turn move => exact (Relation.ReflTransGen.single (.read move)).trans (reaches_turn _ _)
  | write turn move => exact (Relation.ReflTransGen.single (.write move)).trans (reaches_turn _ _)
  | settle => exact reaches_settle s
  | advance => exact reaches_advance s limit

end Turns

/-- A session that another one can become by repetitions of a run, whichever loop moves first. The
surroundings have their turn where both loops wait. -/
abbrev Unfolds (limit : Nat) : Session → Session → Prop :=
  Relation.ReflTransGen (Next limit)

/-- What every repetition keeps holds of all that a session unfolds to. -/
theorem Unfolds.keeps {limit : Nat} {P : Session → Prop}
    (hstep : ∀ s s', P s → Next limit s s' → P s') {s s' : Session} (h : Unfolds limit s s')
    (hs : P s) : P s' := by
  induction h with
  | refl => exact hs
  | tail _ next ih => exact hstep _ _ ih next

theorem Unfolds.reaches {limit : Nat} {s s' : Session} (h : Unfolds limit s s') : Reaches s s' := by
  induction h with
  | refl => exact .refl
  | tail _ next ih => exact ih.trans (reaches_next next)

theorem unfolds_runFor (limit n : Nat) (s : Session) : Unfolds limit s (s.runFor limit n) := by
  induction n generalizing s with
  | zero => exact .refl
  | succ n ih =>
      rw [runFor]
      cases hn : s.next limit with
      | none => exact .refl
      | some s' => exact (Relation.ReflTransGen.single (next_of_eq_some hn)).trans (ih s')

/-- A run is one of the orders in which the loops can take turns. -/
theorem unfolds_run (limit : Nat) (s : Session) : Unfolds limit s (s.run limit) :=
  unfolds_runFor limit _ s

end DuplexStream.Session
