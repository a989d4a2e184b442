import DuplexStream.Proofs.Session.AckOrder

/-!
# Sessions whose peer reads nothing

What is written to such a peer stays in the outbound queue, so a session has room for the outbound
queue, the acknowledgement that the write loop is sending, and its own queue. `Session.Unread` is
what the loops know of one another then. The read loop is asked to stop in the middle of queueing
only when all this room is taken, and the write loop ends without waiting once the read loop has
ended.
-/

namespace DuplexStream

/-- A peer that takes nothing and has taken nothing. -/
structure Peer.Idle (p : Peer) : Prop where
  phase : p.phase = .ignoring
  taken : p.taken = []

theorem Peer.Idle.act {p : Peer} (h : p.Idle) (now : Nat) (q : Queue UInt64) :
    p.act now q = (p, q) := by
  simp [Peer.act, h.phase]

theorem Peer.Idle.canAct {p : Peer} (h : p.Idle) (now : Nat) (q : Queue UInt64) :
    p.canAct now q = false := by
  simp [Peer.canAct, h.phase]

namespace WriteLoop

/-- A write loop between two queues of one capacity, towards a peer that listens. Its queue is
closed when the session is done. -/
structure Unread (capacity : Nat) (w : WriteLoop) : Prop where
  queueCapacity : w.queue.capacity = capacity
  queued : w.queue.items.length ≤ capacity
  outboundCapacity : w.outbound.capacity = capacity
  outbound : w.outbound.items.length ≤ capacity
  written : w.written = w.outbound.items
  listening : w.outbound.listening = true
  senders : w.queue.senders = if w.done then 0 else 1

/-- The session is not done, and the loop goes on. -/
structure Going (capacity : Nat) (w : WriteLoop) : Prop extends Unread capacity w where
  running : w.done = false
  live : w.phase ≠ .ended

variable {capacity now : Nat} {w w' : WriteLoop} {events : List Event}

theorem Step.done_eq (h : Step w now w' events) : w'.done = w.done := by
  cases h <;> rfl

theorem Unread.done_of_closed (h : w.Unread capacity) (closed : w.queue.senders = 0) :
    w.done = true := by
  cases hd : w.done with
  | true => rfl
  | false => simp [h.senders, hd] at closed

theorem Unread.step (h : w.Unread capacity) (move : Step w now w' events) :
    w'.Unread capacity := by
  obtain ⟨hqc, hq, hoc, ho, hw, hl, hs⟩ := h
  cases move with
  | @took deadline a rest polling queued =>
      refine ⟨hqc, ?_, hoc, ho, hw, hl, hs⟩
      rw [queued, List.length_cons] at hq
      exact Nat.le_trans (Nat.le_succ _) hq
  | sent sending listening room =>
      refine ⟨hqc, hq, hoc, ?_, congrArg (· ++ [_]) hw, hl, hs⟩
      simp only [repoll, List.length_append, List.length_singleton]
      omega
  | repolled => exact ⟨hqc, hq, hoc, ho, hw, hl, hs⟩
  | drained | gaveUp | refused | abandoned =>
      exact ⟨hqc, Nat.zero_le _, hoc, ho, hw, hl, hs⟩

/-- The loop does not end before the session is done. -/
theorem Unread.live_of_step (h : w.Unread capacity) (move : Step w now w' events)
    (running : w.done = false) : w'.phase ≠ .ended := by
  cases move with
  | took => simp
  | repolled => simp [repoll]
  | sent => simp [repoll]
  | drained polling empty closed => simp [h.done_of_closed closed] at running
  | gaveUp polling empty held late done => simp [done] at running
  | refused sending gone => simp [h.listening] at gone
  | abandoned sending listening full done => simp [done] at running

/-- Whatever the loop gives up, the outbound queue is full. -/
theorem Unread.min_handed (h : w.Unread capacity) (move : Step w now w' events) :
    min w'.handed.length capacity = min w.handed.length capacity := by
  by_cases live : w'.phase = .ended
  · cases move with
    | took => simp at live
    | repolled => simp [repoll] at live
    | sent => simp [repoll] at live
    | drained polling empty => simp [handed, held, finish, polling, empty]
    | gaveUp polling empty => simp [handed, held, finish, polling, empty]
    | refused sending gone => simp [h.listening] at gone
    | abandoned sending listening full =>
        have := h.outboundCapacity
        simp only [handed, held, finish, sending, h.written, List.length_append,
          List.length_nil, List.length_cons]
        omega
  · rw [move.handed_eq live]

theorem Unread.handed_le (h : w.Unread capacity) : w.handed.length ≤ 2 * capacity + 1 := by
  have := h.queued
  have := h.outbound
  cases hp : w.phase <;> simp only [handed, held, hp, h.written, List.length_append,
    List.length_cons, List.length_nil] <;> omega

/-- A full queue waits only behind a full outbound queue and the acknowledgement in between. -/
theorem Going.handed_of_full (h : w.Going capacity) (waits : Waits w now) (roomy : 1 ≤ capacity)
    (full : w.queue.capacity ≤ w.queue.items.length) : w.handed.length = 2 * capacity + 1 := by
  have hqc := h.queueCapacity
  have hq := h.queued
  cases waits with
  | ended phase => exact absurd phase h.live
  | idle polling empty =>
      rw [empty, List.length_nil] at full
      omega
  | blocked sending listening outboundFull =>
      have hoc := h.outboundCapacity
      have ho := h.outbound
      simp only [handed, held, sending, h.written, List.length_append, List.length_cons]
      omega

/-- As long as the queue has room, one acknowledgement more is within the room of the loop. -/
theorem Going.handed_of_room (h : w.Going capacity)
    (room : w.queue.items.length < w.queue.capacity) : w.handed.length ≤ 2 * capacity := by
  have := h.queueCapacity
  have := h.outbound
  cases hp : w.phase <;> simp only [handed, held, hp, h.written, List.length_append,
    List.length_cons, List.length_nil] <;> omega

theorem capacity_le_handed (w : WriteLoop) (live : w.phase ≠ .ended)
    (full : w.queue.capacity ≤ w.queue.items.length) : w.queue.capacity ≤ w.handed.length := by
  cases hp : w.phase with
  | polling => simp only [handed, held, hp, List.length_append]; omega
  | sending => simp only [handed, held, hp, List.length_append, List.length_cons]; omega
  | ended => exact absurd hp live

end WriteLoop

namespace Session

/-- The queue is full, and the write loop has to wait. -/
structure Blocked (s : Session) : Prop where
  waits : s.writer.step s.now = none
  full : s.writer.queue.capacity ≤ s.writer.queue.items.length

/-- What the loops know of one another when the peer reads nothing. -/
structure Unread (capacity : Nat) (s : Session) : Prop where
  peer : s.peer.Idle
  writer : s.writer.Unread capacity
  done : s.writer.done = true ↔ ∃ t, s.reading = .ended t
  live : s.writer.done = false → s.writer.phase ≠ .ended
  blocked : ∀ a, s.reading = .queueing a → s.stop? = none ∨ s.Blocked

variable {capacity limit : Nat} {s s' : Session}

theorem Unread.going (h : Unread capacity s) (going : ∀ t, s.reading ≠ .ended t) :
    s.writer.Going capacity := by
  have running : s.writer.done = false := by
    rw [← Bool.not_eq_true, h.done]
    rintro ⟨t, ended⟩
    exact going t ended
  exact ⟨h.writer, running, h.live running⟩

section Reading

theorem unread_of_receiving (peer : s.peer.Idle) (writer : s.writer.Going capacity)
    (receiving : s.reading = .receiving) : Unread capacity s where
  peer := peer
  writer := writer.toUnread
  done := by simp [writer.running, receiving]
  live := fun _ => writer.live
  blocked := by simp [receiving]

theorem unread_endReading (peer : s.peer.Idle) (writer : s.writer.Going capacity) (t : Ending) :
    Unread capacity (s.endReading t) where
  peer := peer
  writer :=
    { writer.toUnread with
      senders := by simp [endReading, Queue.dropSender, writer.senders, writer.running] }
  done := by simp [endReading]
  live := nofun
  blocked := nofun

theorem unread_afterMessage (peer : s.peer.Idle) (writer : s.writer.Going capacity) :
    Unread capacity s.afterMessage := by
  rcases s.afterMessage_cases with ⟨_, he⟩ | ⟨_, he⟩
  · rw [he]
    apply unread_endReading
    · exact peer
    · exact writer
  · rw [he]
    exact unread_of_receiving peer writer rfl

theorem going_enqueue (h : s.writer.Going capacity) (a : UInt64)
    (room : s.writer.queue.items.length < s.writer.queue.capacity) :
    (s.enqueue a).writer.Going capacity := by
  refine { h with queued := ?_ }
  have := h.queueCapacity
  simp only [Session.enqueue, List.length_append, List.length_singleton]
  omega

theorem Unread.reads (h : Unread capacity s)
    (listening : s.writer.phase ≠ .ended → s.writer.queue.listening = true)
    (move : Reads s s') : Unread capacity s' := by
  have receives (hr : s.reading = .receiving) : s.writer.Going capacity :=
    h.going (by simp [hr])
  have queues {a : UInt64} (hr : s.reading = .queueing a) : s.writer.Going capacity :=
    h.going (by simp [hr])
  cases move with
  | stopped live => exact unread_endReading h.peer (h.going live) _
  | closed receiving => exact unread_endReading h.peer (receives receiving) _
  | failed receiving =>
      apply unread_endReading
      · exact h.peer
      · exact receives receiving
  | moved receiving => exact unread_of_receiving h.peer (receives receiving) receiving
  | ignored receiving => exact unread_of_receiving h.peer (receives receiving) receiving
  | @data m rest _ receiving calm arrival verdict =>
      cases verdict with
      | plain => exact unread_afterMessage h.peer (receives receiving)
      | passed => exact unread_afterMessage h.peer (receives receiving)
      | unwanted => exact unread_afterMessage h.peer (receives receiving)
      | queueing =>
          refine ⟨h.peer, h.writer, ?_, h.live, fun _ _ => Or.inl calm⟩
          simp [note, (receives receiving).running]
  | @queued a queueing calm listening room =>
      exact unread_afterMessage h.peer (going_enqueue (queues queueing) a room)
  | refused queueing calm gone =>
      simp [listening (queues queueing).live] at gone

end Reading

theorem settle_of_idle (h : s.peer.Idle) :
    s.settle = { s.arrive with
      settled := true
      turn := .reader
      cancelAt := stillPlanned s.cancelAt s.now
      shutdownAt := stillPlanned s.shutdownAt s.now } := by
  simp only [settle, h.act, arrive]

theorem unsettled_of_idle (h : s.peer.Idle) : s.unsettled = !s.settled := by
  simp [unsettled, h.canAct]

/-- Where both loops wait, the read loop that is queueing waits for room. -/
theorem blocked_of_quiet (quiet : s.Quiet) {a : UInt64} (queueing : s.reading = .queueing a) :
    s.stop? = none ∧ s.Blocked := by
  have hw : s.writer.step s.now = none := by
    have := quiet.2
    cases he : s.writer.step s.now with
    | none => rfl
    | some r => simp [writeStep, he] at this
  cases readWaits_of_readStep quiet.1 with
  | ended ended => simp [queueing] at ended
  | receiving receiving => simp [queueing] at receiving
  | queueing _ calm _ full => exact ⟨calm, hw, full⟩

/-- Every repetition of a run keeps what the loops know of one another. -/
theorem Unread.next (h : Unread capacity s)
    (listening : s.writer.phase ≠ .ended → s.writer.queue.listening = true)
    (next : Next limit s s') : Unread capacity s' := by
  cases next with
  | @read s₁ turn move =>
      have h₁ : Unread capacity s₁ := h.reads listening (reads_of_readStep move)
      exact ⟨h₁.peer, h₁.writer, h₁.done, h₁.live, fun a queueing =>
        (h₁.blocked a queueing).imp_right fun hb => ⟨hb.waits, hb.full⟩⟩
  | @write s₁ turn move =>
      have hwaits := move
      obtain ⟨w, events, hw, rfl⟩ := writeStep_eq_some move
      refine ⟨h.peer, h.writer.step hw, ?_, fun running => ?_, fun a queueing => ?_⟩
      · exact hw.done_eq ▸ h.done
      · exact h.writer.live_of_step hw (hw.done_eq ▸ running)
      · rcases h.blocked a queueing with calm | blocked
        · exact Or.inl calm
        · simp [writeStep, blocked.waits] at hwaits
  | settle quiet =>
      rw [settle_of_idle h.peer]
      refine ⟨h.peer, h.writer, h.done, h.live, fun a queueing => Or.inr ?_⟩
      have blocked := (blocked_of_quiet quiet queueing).2
      exact ⟨blocked.waits, blocked.full⟩
  | advance quiet =>
      exact ⟨h.peer, h.writer, h.done, h.live, fun a queueing =>
        Or.inl (blocked_of_quiet quiet queueing).1⟩

section Order

variable {l₀ : Option (Layer Seeded)} {script : List UInt64}

/-- The session before any request, if its peer reads nothing: the room in front of the peer is
never lost. -/
theorem InOrder.next (h : InOrder l₀ script capacity s) (unread : Unread capacity s)
    (next : Next limit s s') : InOrder l₀ script capacity s' := by
  cases next with
  | @read s₁ turn move =>
      have move := reads_of_readStep move
      have going : s.writer.Going capacity := by
        refine unread.going fun t ended => ?_
        cases move <;> simp_all
      have h₁ : InOrder l₀ script capacity s₁ := by
        refine h.reads (fun ended => absurd ended going.live) (fun a queueing => ?_) move
        refine (unread.blocked a queueing).imp_right fun blocked => ?_
        have hle := WriteLoop.capacity_le_handed s.writer going.live blocked.full
        rw [going.queueCapacity] at hle
        exact hle
      exact ⟨h₁.congr rfl rfl rfl rfl rfl rfl, h₁.complete, h₁.atEnd⟩
  | @write s₁ turn move =>
      obtain ⟨w, events, hw, rfl⟩ := writeStep_eq_some move
      have h₁ := h.writes hw (unread.writer.min_handed hw)
      exact ⟨h₁.congr rfl rfl rfl rfl rfl rfl, h₁.complete, h₁.atEnd⟩
  | settle =>
      rw [settle_of_idle unread.peer]
      exact ⟨h.congr rfl rfl rfl rfl rfl rfl, h.complete, h.atEnd⟩
  | advance => exact ⟨h.congr rfl rfl rfl rfl rfl rfl, h.complete, h.atEnd⟩

/-- Everything that is known of a session whose peer reads nothing. -/
structure Accounted (l₀ : Option (Layer Seeded)) (script : List UInt64) (capacity : Nat)
    (s : Session) : Prop extends InOrder l₀ script capacity s where
  unread : Unread capacity s

theorem Accounted.next (h : Accounted l₀ script capacity s) (next : Next limit s s') :
    Accounted l₀ script capacity s' :=
  ⟨h.toInOrder.next h.unread next, h.unread.next h.listening next⟩

theorem Accounted.unfolds (h : Accounted l₀ script capacity s) (hu : Unfolds limit s s') :
    Accounted l₀ script capacity s' :=
  hu.keeps (fun _ _ => Accounted.next) h

end Order

section Start

/-- A session at the moment its stream opens, with draws from a given source. It may have been asked
to cancel before it runs. -/
def begun (plan : SessionPlan) (attempt : Nat) (stream : StreamScript) (around : Surroundings)
    (opened : Moment) (g : Seeded) (cancelled : Bool) : Session :=
  let s := (start plan attempt stream around opened).drawingFrom g
  if cancelled then s.requestCancel else s

variable (plan : SessionPlan) (attempt : Nat) (stream : StreamScript) (around : Surroundings)
  (opened : Moment) (g : Seeded) (cancelled : Bool)

theorem inOrder_begun (kept : Nat) :
    InOrder (firstLayer plan.mode g) (ScriptStep.ids stream.steps) kept
      (begun plan attempt stream around opened g cancelled) := by
  have h := inOrder_start plan attempt stream around opened g kept
  cases cancelled with
  | false => exact h
  | true => exact ⟨h.requestCancel, h.complete, h.atEnd⟩

theorem unread_begun (unread : around.plan = .ignore) :
    Unread plan.channelBuffer (begun plan attempt stream around opened g cancelled) := by
  have hw : (begun plan attempt stream around opened g cancelled).writer =
      .start attempt plan.writePoll plan.channelBuffer (.ofCapacity plan.channelBuffer)
        opened.tick := by
    cases cancelled <;> simp [begun, start, drawingFrom, requestCancel, unread, Peer.ofPlan,
      Peer.openQueue]
  have hp : (begun plan attempt stream around opened g cancelled).peer = ⟨0, .ignoring, []⟩ := by
    cases cancelled <;> simp [begun, start, drawingFrom, requestCancel, unread, Peer.ofPlan]
  refine unread_of_receiving ⟨by rw [hp], by rw [hp]⟩ (hw ▸ ?_) (by cases cancelled <;> rfl)
  exact ⟨⟨rfl, Nat.zero_le _, rfl, Nat.zero_le _, rfl, rfl, rfl⟩, rfl, by simp [WriteLoop.start]⟩

theorem accounted_begun (unread : around.plan = .ignore) :
    Accounted (firstLayer plan.mode g) (ScriptStep.ids stream.steps) plan.channelBuffer
      (begun plan attempt stream around opened g cancelled) :=
  ⟨inOrder_begun plan attempt stream around opened g cancelled _,
    unread_begun plan attempt stream around opened g cancelled unread⟩

end Start

end Session

end DuplexStream
