import DuplexStream.Proofs.Session.Interleaving

/-!
# Runs come to their end

Every repetition of a run makes `Session.rank` smaller, so a run that is given its rank as a bound
never stops for lack of repetitions: after `Session.run` both loops have ended, or both wait and the
clock has reached its limit.
-/

namespace DuplexStream

namespace Session

variable {limit : Nat} {s s' : Session}

/-- What is left of the write loop and its queues. -/
def writerRank (w : WriteLoop) (now : Nat) : Nat :=
  5 * w.queue.items.length + writingRank w.phase now + 2 * w.outbound.items.length

/-- What is left besides the read loop itself. -/
def restRank (limit : Nat) (s : Session) : Nat :=
  4 * (limit - s.now) + (if s.settled then 0 else 1) + inboundRank s.inbound +
    writerRank s.writer s.now + peerRank s.peer s.now

theorem rank_eq (limit : Nat) (s : Session) :
    s.rank limit = readingRank s.reading + s.restRank limit := by
  simp only [rank, restRank, writerRank]
  omega

theorem restRank_withWriter (limit : Nat) (s : Session) (w : WriteLoop) :
    ({ s with writer := w } : Session).restRank limit + writerRank s.writer s.now =
      s.restRank limit + writerRank w s.now := by
  change 4 * (limit - s.now) + (if s.settled then 0 else 1) + inboundRank s.inbound +
    writerRank w s.now + peerRank s.peer s.now + writerRank s.writer s.now = _
  simp only [restRank]
  omega

theorem rank_afterMessage_le (limit : Nat) (s : Session) :
    s.afterMessage.rank limit ≤ s.restRank limit + 1 := by
  rw [rank_eq]
  rcases s.afterMessage_cases with ⟨_, he⟩ | ⟨_, he⟩
  · rw [he]
    change 0 + s.restRank limit ≤ s.restRank limit + 1
    omega
  · rw [he]
    change 1 + s.restRank limit ≤ s.restRank limit + 1
    omega

theorem rank_acknowledges_le (limit : Nat) {id : UInt64} (h : Acknowledges s id s') :
    s'.rank limit ≤ s.restRank limit + 7 := by
  have hafter (a : Session) (same : a.restRank limit = s.restRank limit) :
      a.afterMessage.rank limit ≤ s.restRank limit + 7 := by
    have := rank_afterMessage_le limit a
    omega
  cases h with
  | plain => exact hafter s rfl
  | passed => exact hafter _ rfl
  | unwanted => exact hafter _ rfl
  | queueing =>
      rw [rank_eq]
      change 7 + s.restRank limit ≤ s.restRank limit + 7
      omega

/-- A stream that gives an item or moves has less to come. -/
theorem size_lt_of_poll {i rest : Inbound} {now : Nat}
    (h : (∃ e, i.poll now = .item e rest) ∨ i.poll now = .moved rest) : rest.size < i.size := by
  have polls := i.polls_poll now
  rcases h with ⟨e, h⟩ | h
  · rw [h] at polls
    cases polls with
    | item steps =>
        simp only [Inbound.size, steps, List.length_cons, Option.isNone_none, if_true]
        omega
  · rw [h] at polls
    cases polls with
    | started steps wake => simp [Inbound.size, wake]
    | woke steps wake =>
        simp only [Inbound.size, steps, wake, List.length_cons, Option.isNone_none,
          Option.isNone_some, Bool.false_eq_true, if_true, if_false]
        omega

/-- A message or a wait on its way in is worth eight moves. -/
theorem restRank_inbound (limit : Nat) {rest : Inbound}
    (h : (∃ e, s.inbound.poll s.now = .item e rest) ∨ s.inbound.poll s.now = .moved rest) :
    ({ s with inbound := rest } : Session).restRank limit + 8 ≤ s.restRank limit := by
  have hsize := size_lt_of_poll h
  simp only [restRank, inboundRank]
  omega

/-- The end of the read loop takes the loop's own share away. -/
theorem rank_endReading (limit : Nat) (s : Session) (t : Ending) :
    (s.endReading t).rank limit = s.restRank limit := by
  rw [rank_eq]
  change 0 + s.restRank limit = s.restRank limit
  rw [Nat.zero_add]

theorem readingRank_pos {r : Reading} (live : ∀ t, r ≠ .ended t) : 1 ≤ readingRank r := by
  cases r with
  | receiving => exact Nat.le_refl 1
  | queueing a => simp [readingRank]
  | ended t => exact absurd rfl (live t)

theorem rank_lt_of_reads (h : Reads s s') : s'.rank limit < s.rank limit := by
  rw [rank_eq limit s]
  have share {r : Reading} (hr : s.reading = r) : readingRank s.reading = readingRank r := by
    rw [hr]
  cases h with
  | @stopped t live =>
      have := readingRank_pos live
      rw [rank_endReading]
      omega
  | closed receiving =>
      have : readingRank s.reading = 1 := share receiving
      rw [rank_endReading]
      omega
  | @failed st rest receiving calm arrival =>
      have : readingRank s.reading = 1 := share receiving
      have polls := s.inbound.polls_poll s.now
      rw [arrival] at polls
      cases polls with
      | failed steps =>
          have hsize : inboundRank ⟨[], .close, s.inbound.wake⟩ = inboundRank s.inbound := by
            simp [inboundRank, Inbound.size, steps]
          have hrest :
              ({ s with inbound := ⟨[], .close, s.inbound.wake⟩ } : Session).restRank limit =
              s.restRank limit := by
            simp only [restRank, hsize]
          rw [rank_endReading, hrest]
          omega
  | moved receiving calm arrival =>
      have hle := restRank_inbound limit (Or.inr arrival)
      rw [rank_eq]
      change readingRank s.reading + _ < _
      omega
  | @ignored e rest receiving calm arrival =>
      have hle := restRank_inbound limit (Or.inl ⟨e, arrival⟩)
      rw [rank_eq]
      change readingRank s.reading + ({ s with inbound := rest } : Session).restRank limit < _
      omega
  | @data m rest _ receiving calm arrival verdict =>
      have hle := rank_acknowledges_le limit verdict
      have hless := restRank_inbound limit (Or.inl ⟨.data m, arrival⟩)
      change _ ≤ ({ s with inbound := rest } : Session).restRank limit + 7 at hle
      omega
  | @queued a queueing =>
      have : readingRank s.reading = 7 := share queueing
      have hle := rank_afterMessage_le limit ((s.enqueue a).note [.queuedAck s.attempt a])
      have hrest := restRank_withWriter limit s (s.enqueue a).writer
      have hmore : writerRank (s.enqueue a).writer s.now = writerRank s.writer s.now + 5 := by
        simp only [writerRank, enqueue, List.length_append, List.length_singleton]
        omega
      change (s.enqueue a).restRank limit + _ = _ at hrest
      change _ ≤ (s.enqueue a).restRank limit + 1 at hle
      omega
  | @refused a queueing =>
      have : readingRank s.reading = 7 := share queueing
      have hle := rank_afterMessage_le limit
        ({ s with acksOpen := false }.note [.writerStopped s.attempt a])
      change _ ≤ s.restRank limit + 1 at hle
      omega

theorem writerRank_lt {w w' : WriteLoop} {now : Nat} {events : List Event}
    (poll : 1 ≤ w.poll) (h : WriteLoop.Step w now w' events) :
    writerRank w' now < writerRank w now := by
  have late (deadline : Nat) : 1 ≤ writingRank (.polling deadline) now := by
    simp only [writingRank]
    split <;> omega
  have early : writingRank (.polling (now + w.poll)) now = 1 := by
    simp only [writingRank]
    rw [if_neg (by omega)]
  cases h with
  | @took deadline a rest polling queued =>
      have := late deadline
      simp only [writerRank, queued, polling, List.length_cons]
      simp only [writingRank] at this ⊢
      omega
  | @drained deadline polling =>
      have := late deadline
      simp only [writerRank, WriteLoop.finish, polling, Queue.hangUp, Queue.dropSender,
        List.length_nil]
      simp only [writingRank] at this ⊢
      omega
  | @gaveUp deadline polling =>
      have := late deadline
      simp only [writerRank, WriteLoop.finish, polling, Queue.hangUp, Queue.dropSender,
        List.length_nil]
      simp only [writingRank] at this ⊢
      omega
  | @repolled deadline polling empty held due =>
      simp only [writerRank, WriteLoop.repoll, polling, early]
      simp only [writingRank, if_pos due]
      omega
  | @sent a sending =>
      simp only [writerRank, WriteLoop.repoll, sending, early, List.length_append,
        List.length_singleton]
      simp only [writingRank]
      omega
  | @refused a sending =>
      simp only [writerRank, WriteLoop.finish, sending, Queue.hangUp, Queue.dropSender,
        writingRank, List.length_nil]
      omega
  | @abandoned a sending =>
      simp only [writerRank, WriteLoop.finish, sending, Queue.hangUp, Queue.dropSender,
        writingRank, List.length_nil]
      omega

section Peers

variable (p : Peer) (now : Nat) (q : Queue UInt64)

/-- What the peer reads is worth more than the rest it takes afterwards. -/
theorem read_rank : 2 * (p.read now q).2.items.length + peerRank (p.read now q).1 now +
    (if q.items.isEmpty then 0 else 1) ≤ 2 * q.items.length := by
  by_cases hr : p.rest = 0
  · cases hq : q.items with
    | nil => simp [Peer.read, hr, peerRank, hq]
    | cons a rest =>
        simp only [Peer.read, hr, if_true, hq, List.length_nil, List.length_cons, peerRank,
          List.isEmpty_cons, Bool.false_eq_true, if_false]
        omega
  · cases hq : q.items with
    | nil => simp [Peer.read, hr, hq, peerRank]
    | cons a rest =>
        simp only [Peer.read, hr, hq, peerRank, if_false, List.isEmpty_cons,
          Bool.false_eq_true, List.length_cons]
        rw [if_neg (by omega)]
        omega

theorem await_rank (later : List Visit) :
    2 * (p.await later now q).2.items.length + peerRank (p.await later now q).1 now +
      (if q.items.isEmpty then 0 else 1) ≤ 2 * q.items.length + 2 * later.length + 1 := by
  cases hq : q.items with
  | nil => simp [Peer.await, hq, peerRank]
  | cons a rest =>
      simp only [Peer.await, hq, peerRank, List.length_cons, List.isEmpty_cons,
        Bool.false_eq_true, if_false]
      omega

/-- A visit is worth more than what it leaves to do. -/
theorem visit_rank (move : PeerMove) (later : List Visit) :
    2 * (p.visit move later now q).2.items.length + peerRank (p.visit move later now q).1 now + 1 ≤
      2 * q.items.length + 2 * (later.length + 1) := by
  cases move with
  | take n =>
      simp only [Peer.visit, peerRank, List.length_drop]
      omega
  | await =>
      have := await_rank p now q later
      simp only [Peer.visit]
      omega
  | leave =>
      simp only [Peer.visit, peerRank, Queue.hangUp, List.length_nil]
      omega

/-- The peer's turn takes nothing away from what it can still do, and something if it can act. -/
theorem peer_act_rank : 2 * (p.act now q).2.items.length + peerRank (p.act now q).1 now +
      (if p.canAct now q then 1 else 0) ≤ 2 * q.items.length + peerRank p now := by
  have reading := read_rank p now q
  cases hp : p.phase with
  | leaving tick =>
      by_cases ht : tick ≤ now
      · simp [Peer.act, Peer.canAct, peerRank, hp, ht, Queue.hangUp]
      · simp [Peer.act, Peer.canAct, hp, ht]
  | resting tick =>
      by_cases ht : tick ≤ now
      · simp only [Peer.act, Peer.canAct, hp, ht, if_true, decide_true]
        simp only [peerRank, hp, ht, if_true] at reading ⊢
        split at reading <;> omega
      · simp [Peer.act, Peer.canAct, hp, ht]
  | ready =>
      have hown : peerRank p now = 0 := by simp [peerRank, hp]
      cases he : q.items.isEmpty with
      | true =>
          simp only [he, if_true] at reading
          simp only [Peer.act, Peer.canAct, hp, he, Bool.not_true, Bool.false_eq_true, if_false]
          omega
      | false =>
          simp only [he, Bool.false_eq_true, if_false] at reading
          simp only [Peer.act, Peer.canAct, hp, he, Bool.not_false, if_true]
          omega
  | visiting since schedule =>
      cases schedule with
      | nil => simp [Peer.act, Peer.canAct, hp]
      | cons v later =>
          have own : peerRank p now = 2 * (later.length + 1) := by simp [peerRank, hp]
          have visiting := visit_rank p now q v.move later
          by_cases due : since + v.rest.ticks ≤ now
          · simp only [Peer.act, Peer.canAct, hp, if_pos due, decide_eq_true due, if_true]
            omega
          · simp [Peer.act, Peer.canAct, hp, due]
  | awaiting later =>
      have own : peerRank p now = 2 * later.length + 1 := by simp [peerRank, hp]
      have waiting := await_rank p now q later
      simp only [Peer.act, Peer.canAct, hp]
      cases he : q.items.isEmpty with
      | true =>
          simp only [he, if_true] at waiting
          simp only [Bool.not_true, Bool.false_eq_true, if_false]
          omega
      | false =>
          simp only [he, Bool.false_eq_true, if_false] at waiting
          simp only [Bool.not_false, if_true]
          omega
  | ignoring => simp [Peer.act, Peer.canAct, hp]
  | gone => simp [Peer.act, Peer.canAct, hp]

end Peers

theorem rank_lt_of_next (poll : 1 ≤ s.writer.poll) (h : Next limit s s') :
    s'.rank limit < s.rank limit := by
  cases h with
  | @read s₁ turn move =>
      have hlt : s₁.rank limit < s.rank limit := rank_lt_of_reads (reads_of_readStep move)
      exact hlt
  | @write s₁ turn move =>
      obtain ⟨w, events, hw, rfl⟩ := writeStep_eq_some move
      have hlt := writerRank_lt poll hw
      have hrest := restRank_withWriter limit s w
      rw [rank_eq, rank_eq]
      change readingRank s.reading + ({ s with writer := w } : Session).restRank limit < _
      omega
  | settle quiet running early due =>
      have hact := peer_act_rank s.peer s.now s.writer.outbound
      simp only [unsettled, Bool.or_eq_true, Bool.not_eq_true'] at due
      simp only [rank, settle]
      rcases due with due | due
      · simp only [due, if_true, Bool.false_eq_true, if_false]
        split at hact <;> omega
      · simp only [due, if_true] at hact ⊢
        split <;> omega
  | advance quiet running early idle =>
      have hnow : s.now + 1 ≤ max (s.now + 1) (s.nextTick limit) := by omega
      simp only [unsettled, Bool.or_eq_false_iff, Bool.not_eq_false'] at idle
      have hw : writingRank s.writer.phase (max (s.now + 1) (s.nextTick limit)) ≤
          writingRank s.writer.phase s.now + 1 := by
        cases s.writer.phase with
        | polling deadline =>
            simp only [writingRank]
            split <;> split <;> omega
        | sending a => exact Nat.le_succ 4
        | ended => exact Nat.le_succ 0
      have hp : peerRank s.peer (max (s.now + 1) (s.nextTick limit)) ≤
          peerRank s.peer s.now + 1 := by
        cases hp : s.peer.phase with
        | leaving tick =>
            simp only [peerRank, hp]
            split <;> split <;> omega
        | resting tick =>
            simp only [peerRank, hp]
            split <;> split <;> omega
        | _ => simp [peerRank, hp]
      simp only [rank, advance, idle.1, if_true, Bool.false_eq_true, if_false]
      omega

theorem next_runFor (poll : 1 ≤ s.writer.poll) {n : Nat} (enough : s.rank limit ≤ n) :
    (s.runFor limit n).next limit = none := by
  induction n generalizing s with
  | zero =>
      rw [runFor]
      cases hn : s.next limit with
      | none => rfl
      | some s' =>
          have := rank_lt_of_next poll (next_of_eq_some hn)
          omega
  | succ n ih =>
      rw [runFor]
      cases hn : s.next limit with
      | none => exact hn
      | some s' =>
          have hnext := next_of_eq_some hn
          have := rank_lt_of_next poll hnext
          exact ih ((reaches_next hnext).continues.poll ▸ poll) (by omega)

/-- More repetitions than the rank change nothing. -/
theorem runFor_congr (poll : 1 ≤ s.writer.poll) {n m : Nat} (enough : s.rank limit ≤ n)
    (enough' : s.rank limit ≤ m) : s.runFor limit n = s.runFor limit m := by
  induction n generalizing s m with
  | zero =>
      have halted : s.next limit = none := by
        cases hn : s.next limit with
        | none => rfl
        | some s' =>
            have := rank_lt_of_next poll (next_of_eq_some hn)
            omega
      cases m <;> simp [runFor, halted]
  | succ n ih =>
      cases hn : s.next limit with
      | none => cases m <;> simp [runFor, hn]
      | some s' =>
          have hnext := next_of_eq_some hn
          have hlt := rank_lt_of_next poll hnext
          have poll' := (reaches_next hnext).continues.poll ▸ poll
          cases m with
          | zero => omega
          | succ m =>
              simp only [runFor, hn]
              exact ih poll' (by omega) (by omega)

/-- A run goes on from its first repetition. -/
theorem run_of_next (poll : 1 ≤ s.writer.poll) (h : s.next limit = some s') :
    s.run limit = s'.run limit := by
  have hlt := rank_lt_of_next poll (next_of_eq_some h)
  have poll' := (reaches_next (next_of_eq_some h)).continues.poll ▸ poll
  calc s.run limit = s.runFor limit (s.rank limit + 1) :=
        runFor_congr poll (Nat.le_refl _) (Nat.le_succ _)
    _ = s'.runFor limit (s.rank limit) := by simp only [runFor, h]
    _ = s'.run limit := runFor_congr poll' (Nat.le_of_lt hlt) (Nat.le_refl _)

theorem run_of_over (h : s.next limit = none) : s.run limit = s := by
  rw [run]
  cases s.rank limit <;> simp [runFor, h]

/-- What holds of a session at the end of its run, and of a session as soon as it holds after its
first repetition, holds of every session. -/
theorem run_induction (limit : Nat) {P : Session → Prop}
    (halted : ∀ s, s.next limit = none → P s)
    (back : ∀ s s', 1 ≤ s.writer.poll → s.next limit = some s' → P s' → P s)
    (poll : 1 ≤ s.writer.poll) : P s := by
  induction hn : s.rank limit using Nat.strongRecOn generalizing s with
  | ind n ih =>
      cases h : s.next limit with
      | none => exact halted s h
      | some s' =>
          have next := next_of_eq_some h
          apply back s s' poll h
          apply ih _ (hn ▸ rank_lt_of_next poll next) _ rfl
          exact (reaches_next next).continues.poll ▸ poll

/-- A run stops only where nothing is left to do before the limit. -/
theorem next_run (limit : Nat) {s : Session} (poll : 1 ≤ s.writer.poll) :
    (s.run limit).next limit = none :=
  next_runFor poll (Nat.le_refl _)

end Session

end DuplexStream
