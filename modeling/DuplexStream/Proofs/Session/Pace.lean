import DuplexStream.Attempt
import DuplexStream.Proofs.Session.Capacity
import DuplexStream.Proofs.Session.Interruption

/-!
# How often the write loop looks around

The write loop waits for an acknowledgement until a deadline, then looks whether the session is done
and waits again. How long it waits cannot be seen from outside: each session goes as the same
session goes whose write loop waits beyond the limit of the clock (`Session.Unhurried.run`), so any
two of them write the same acknowledgements at the same moments and report the same.

A session that polls stops its clock at more ticks than one that does not. Where both loops wait and
no other timer is due, a stop changes nothing and is over at once (`Session.run_dozing`).
-/

namespace DuplexStream

namespace WriteLoop

variable {w w' : WriteLoop} {now poll deadline : Nat} {events : List Event}

/-- The write loop with another poll, and with another deadline where it is polling. -/
def paced (w : WriteLoop) (poll deadline : Nat) : WriteLoop :=
  { w with
    poll := poll
    phase := match w.phase with
      | .polling _ => .polling deadline
      | phase => phase }

/-- A loop that polls has moved without its deadline, or it has only set itself a new one. -/
theorem step_paced (h : w.step now = some (w', events))
    (closed : w.done = true → w.queue.senders = 0) (poll deadline : Nat) :
    (∃ later, (later = deadline ∨ later = now + poll) ∧
      (w.paced poll deadline).step now = some (w'.paced poll later, events)) ∨
    (events = [] ∧ ∀ poll deadline, w'.paced poll deadline = w.paced poll deadline) := by
  cases step_of_eq_some h with
  | took polling queued =>
      refine Or.inl ⟨deadline, Or.inl rfl, ?_⟩
      simp [step, paced, polling, Queue.receive, queued]
  | drained polling empty gone =>
      refine Or.inl ⟨deadline, Or.inl rfl, ?_⟩
      simp [step, paced, polling, Queue.receive, empty, gone, finish, finishEvent]
  | gaveUp polling empty held late done => exact absurd (closed done) held
  | repolled polling =>
      refine Or.inr ⟨rfl, fun poll deadline => ?_⟩
      simp [paced, repoll, polling]
  | sent sending listening room =>
      refine Or.inl ⟨now + poll, Or.inr rfl, ?_⟩
      simp [step, paced, sending, Queue.send, listening, room, repoll]
  | refused sending gone =>
      refine Or.inl ⟨deadline, Or.inl rfl, ?_⟩
      simp [step, paced, sending, Queue.send, gone, finish, finishEvent]
  | abandoned sending listening full done =>
      refine Or.inl ⟨deadline, Or.inl rfl, ?_⟩
      simp [step, paced, sending, Queue.send, listening, Nat.not_lt.mpr full, done, finish,
        finishEvent]

/-- A loop that has to wait has to wait at any pace, until its deadline. -/
theorem step_paced_eq_none (h : w.step now = none) (later : now < deadline) (poll : Nat) :
    (w.paced poll deadline).step now = none := by
  cases waits_of_step_eq_none h with
  | ended phase => simp [step, paced, phase]
  | idle polling empty held =>
      simp [step, paced, polling, Queue.receive, empty, held, Nat.not_le.mpr later]
  | blocked sending listening full running =>
      simp [step, paced, sending, Queue.send, listening, Nat.not_lt.mpr full, running]

theorem isEnded_paced (w : WriteLoop) (poll deadline : Nat) :
    (w.paced poll deadline).isEnded = w.isEnded := by
  cases hp : w.phase <;> simp [isEnded, paced, hp]

end WriteLoop

namespace Session

variable {limit : Nat} {s s' b : Session} {turn : Turn} {poll deadline : Nat} {α : Type}

section Diary

/-- What a record of the session gains by a repetition, with the moment of it. -/
def gain (record : Session → List α) (s s' : Session) : List (Moment × α) :=
  ((record s').drop (record s).length).map fun entry => (s.moment, entry)

/-- What a record gains by at most `n` repetitions. -/
def diaryFor (record : Session → List α) (limit : Nat) : Nat → Session → List (Moment × α)
  | 0, _ => []
  | n + 1, s =>
    match s.next limit with
    | some s' => gain record s s' ++ diaryFor record limit n s'
    | none => []

/-- What a record of the session gains in a run, each entry with the moment of it. -/
def diary (record : Session → List α) (limit : Nat) (s : Session) : List (Moment × α) :=
  diaryFor record limit (s.rank limit) s

theorem gain_of_same {record : Session → List α} (same : record s' = record s) :
    gain record s s' = [] := by
  simp [gain, same]

theorem diaryFor_congr (record : Session → List α) (poll : 1 ≤ s.writer.poll) {n m : Nat}
    (enough : s.rank limit ≤ n) (enough' : s.rank limit ≤ m) :
    diaryFor record limit n s = diaryFor record limit m s := by
  revert n m
  apply run_induction limit ?_ ?_ poll
  · intro s halted n m _ _
    cases n <;> cases m <;> simp [diaryFor, halted]
  · intro s s' poll next ih n m enough enough'
    have less := rank_lt_of_next poll (next_of_eq_some next)
    cases n with
    | zero => omega
    | succ n =>
        cases m with
        | zero => omega
        | succ m =>
            simp only [diaryFor, next]
            exact congrArg (gain record s s' ++ ·) (ih (by omega) (by omega))

theorem diary_of_next (record : Session → List α) (poll : 1 ≤ s.writer.poll)
    (next : s.next limit = some s') :
    s.diary record limit = gain record s s' ++ s'.diary record limit := by
  have less := rank_lt_of_next poll (next_of_eq_some next)
  have poll' := (reaches_next (next_of_eq_some next)).continues.poll ▸ poll
  calc s.diary record limit = diaryFor record limit (s.rank limit + 1) s :=
        diaryFor_congr record poll (Nat.le_refl _) (Nat.le_succ _)
    _ = gain record s s' ++ diaryFor record limit (s.rank limit) s' := by
        simp only [diaryFor, next]
    _ = gain record s s' ++ s'.diary record limit := by
        rw [diary, diaryFor_congr record poll' (Nat.le_of_lt less) (Nat.le_refl _)]

theorem diary_of_over (record : Session → List α) (h : s.next limit = none) :
    s.diary record limit = [] := by
  rw [diary]
  cases s.rank limit <;> simp [diaryFor, h]

/-- The diary of a record that only grows is complete. -/
theorem diary_complete (record : Session → List α) (limit : Nat)
    (grows : ∀ s s', Next limit s s' → record s <+: record s') (poll : 1 ≤ s.writer.poll) :
    record (s.run limit) = record s ++ (s.diary record limit).map Prod.snd := by
  apply run_induction limit ?_ ?_ poll
  · intro s halted
    rw [run_of_over halted, diary_of_over record halted, List.map_nil, List.append_nil]
  · intro s s' poll next ih
    obtain ⟨more, longer⟩ := grows s s' (next_of_eq_some next)
    rw [run_of_next poll next, diary_of_next record poll next, ih, ← longer]
    simp [gain, ← longer, Function.comp_def]

end Diary

/-- The session with its write loop at another pace. Where the read loop waits, the turn is free. -/
def paced (s : Session) (turn : Turn) (poll deadline : Nat) : Session :=
  { s with turn := turn, writer := s.writer.paced poll deadline }

/-- The session as it is, at another moment. -/
def atMoment (s : Session) (m : Moment) : Session :=
  { s with now := m.tick, settled := m.settled, turn := .reader }

/-- A record of a session that shows nothing of its clock and of its pace. -/
structure Blind (record : Session → List α) : Prop where
  paced : ∀ s turn poll deadline, record (s.paced turn poll deadline) = record s
  atMoment : ∀ s m, record (s.atMoment m) = record s

section Dozing

/-- A peer that has nothing to do has nothing to do before its time has come. -/
theorem peer_waits {p : Peer} {now tick : Nat} {q : Queue UInt64} (idle : p.canAct now q = false)
    (early : ∀ due, p.due? = some due → tick < due) :
    p.canAct tick q = false ∧ p.act tick q = (p, q) := by
  obtain ⟨rest, phase, taken⟩ := p
  obtain ⟨capacity, items, senders, listening⟩ := q
  cases phase with
  | leaving due =>
      have later : tick < due := early due rfl
      simp [Peer.canAct, Peer.act, Nat.not_le.mpr later]
  | resting due =>
      have later : tick < due := early due rfl
      simp [Peer.canAct, Peer.act, Nat.not_le.mpr later]
  | ready =>
      obtain rfl : items = [] := by simpa [Peer.canAct] using idle
      by_cases never : rest = 0 <;> simp [Peer.canAct, Peer.act, Peer.read, never]
  | visiting since schedule =>
      cases schedule with
      | nil => exact ⟨rfl, rfl⟩
      | cons v later =>
          have later : tick < since + v.rest.ticks := early _ rfl
          simp [Peer.canAct, Peer.act, Nat.not_le.mpr later]
  | awaiting later =>
      obtain rfl : items = [] := by simpa [Peer.canAct] using idle
      exact ⟨rfl, rfl⟩
  | ignoring => exact ⟨rfl, rfl⟩
  | gone => exact ⟨rfl, rfl⟩

theorem not_due_of_timer {planned : Option Nat} {tick : Nat}
    (later : ∀ due, planned = some due → tick < due) : isDue planned tick = false := by
  cases planned with
  | none => rfl
  | some due => simpa [isDue] using later due rfl

/-- A session that has nothing to do before its next timer may stop its clock in between: it comes
to the same. -/
theorem run_dozing {tick : Nat} {record : Session → List α} (blind : Blind record)
    (poll : 1 ≤ s.writer.poll) (quiet : s.Quiet) (running : s.isFinished = false)
    (idle : s.unsettled = false) (later : s.now < tick) (early : tick < s.nextTick limit) :
    (s.atMoment ⟨tick, false⟩).run limit = s.run limit ∧
      (s.atMoment ⟨tick, false⟩).diary record limit = s.diary record limit := by
  have bound := nextTick_le limit s
  have timers : ∀ timer ∈ s.timers, tick < timer := by
    intro timer mem
    have := bound.2 timer mem
    omega
  have short : tick < limit := by omega
  have waiting (settled : Bool) : (s.atMoment ⟨tick, settled⟩).Quiet :=
    quiet.later timers rfl rfl rfl rfl
  have nothing : s.peer.canAct s.now s.writer.outbound = false := by
    rw [unsettled, Bool.or_eq_false_iff] at idle
    exact idle.2
  obtain ⟨hcan, hact⟩ := peer_waits nothing fun due planned =>
    timers due (by simp [Session.timers, planned])
  have hcancel : isDue s.cancelAt tick = false :=
    not_due_of_timer fun due planned => timers due (by simp [Session.timers, planned])
  have hshutdown : isDue s.shutdownAt tick = false :=
    not_due_of_timer fun due planned => timers due (by simp [Session.timers, planned])
  -- the surroundings have nothing to do at the tick, and the clock goes on to the same timer
  have turn : (s.atMoment ⟨tick, false⟩).settle = s.atMoment ⟨tick, true⟩ := by
    simp only [settle, atMoment, hact, hcancel, hshutdown, stillPlanned, Bool.or_false,
      Bool.false_eq_true, if_false]
  have onward : (s.atMoment ⟨tick, true⟩).advance limit = s.advance limit := by
    have same : max (tick + 1) (s.nextTick limit) = max (s.now + 1) (s.nextTick limit) := by omega
    exact congrArg (fun now => s.atMoment ⟨now, false⟩) same
  have first : (s.atMoment ⟨tick, false⟩).next limit = some (s.atMoment ⟨tick, true⟩) :=
    turn ▸ next_settle (waiting false) running short rfl
  have second : (s.atMoment ⟨tick, true⟩).next limit = some (s.advance limit) :=
    onward ▸ next_advance (waiting true) running short (by simp [unsettled, atMoment, hcan])
  have only : s.next limit = some (s.advance limit) :=
    next_advance quiet running (by omega) idle
  constructor
  · rw [run_of_next (s := s.atMoment ⟨tick, false⟩) poll first,
      run_of_next (s := s.atMoment ⟨tick, true⟩) poll second, run_of_next poll only]
  · have advanced : record (s.advance limit) = record s := blind.atMoment s ⟨_, false⟩
    rw [diary_of_next record (s := s.atMoment ⟨tick, false⟩) poll first,
      diary_of_next record (s := s.atMoment ⟨tick, true⟩) poll second,
      diary_of_next record poll only, gain_of_same advanced,
      gain_of_same ((blind.atMoment s _).trans (blind.atMoment s _).symm),
      gain_of_same (advanced.trans (blind.atMoment s _).symm), List.nil_append]

end Dozing

/-- Beside a session the same session whose write loop waits beyond the limit of the clock. -/
inductive Unhurried (limit : Nat) (s : Session) : Session → Prop
  | mk {turn : Turn} {poll deadline : Nat} (far : limit < poll) (late : limit < deadline)
      (later : s.now < deadline) (turns : turn = s.turn ∨ s.readStep = none) :
      Unhurried limit s (s.paced turn poll deadline)

section Comparison

theorem readStep_paced (s : Session) (turn : Turn) (poll deadline : Nat) :
    (s.paced turn poll deadline).readStep =
      s.readStep.map fun s' => s'.paced turn poll deadline :=
  readStep_onAside s fun o => { o with
    turn := turn
    poll := poll
    phase := match o.phase with
      | .polling _ => .polling deadline
      | phase => phase }

/-- A session that polls has moved as the other one does, or only its write loop has set itself a
new deadline. -/
theorem writeStep_paced (h : s.writeStep = some s') (attended : Attended s) (turn : Turn)
    (poll deadline : Nat) :
    (∃ later, (later = deadline ∨ later = s.now + poll) ∧
      (s.paced turn poll deadline).writeStep = some (s'.paced turn poll later)) ∨
    ∀ turn poll deadline, s'.paced turn poll deadline = s.paced turn poll deadline := by
  cases hw : s.writer.step s.now with
  | none => simp [writeStep, hw] at h
  | some r =>
      obtain ⟨w, events⟩ := r
      simp only [writeStep, hw, Option.some.injEq] at h
      subst h
      have closed : s.writer.done = true → s.writer.queue.senders = 0 := by
        intro done
        simp [attended.senders, done]
      rcases WriteLoop.step_paced hw closed poll deadline with ⟨later, which, side⟩ | ⟨rfl, same⟩
      · refine Or.inl ⟨later, which, ?_⟩
        have side' : (s.paced turn poll deadline).writer.step (s.paced turn poll deadline).now =
            some (w.paced poll later, events) := side
        simp only [writeStep, side']
        rfl
      · refine Or.inr fun turn poll deadline => ?_
        exact congrArg (fun w => ({ s with turn := turn, writer := w } : Session))
          (same poll deadline)

theorem writeStep_paced_eq_none (h : s.writeStep = none) (later : s.now < deadline) (turn : Turn)
    (poll : Nat) : (s.paced turn poll deadline).writeStep = none := by
  have waits : s.writer.step s.now = none := by
    cases hw : s.writer.step s.now with
    | none => rfl
    | some r => simp [writeStep, hw] at h
  have side : (s.paced turn poll deadline).writer.step (s.paced turn poll deadline).now = none :=
    WriteLoop.step_paced_eq_none waits later poll
  simp only [writeStep, side]

theorem quiet_paced (h : s.Quiet) (later : s.now < deadline) (turn : Turn) (poll : Nat) :
    (s.paced turn poll deadline).Quiet := by
  constructor
  · rw [readStep_paced, h.1, Option.map_none]
  · exact writeStep_paced_eq_none h.2 later turn poll

theorem isFinished_paced (s : Session) (turn : Turn) (poll deadline : Nat) :
    (s.paced turn poll deadline).isFinished = s.isFinished := by
  have reading : (s.paced turn poll deadline).reading = s.reading := rfl
  have ended : (s.paced turn poll deadline).writer.isEnded = s.writer.isEnded :=
    WriteLoop.isEnded_paced s.writer poll deadline
  simp only [isFinished, reading, ended]

theorem report_paced (s : Session) (turn : Turn) (poll deadline : Nat) :
    (s.paced turn poll deadline).report? = s.report? := by
  have reading : (s.paced turn poll deadline).reading = s.reading := rfl
  have ended : (s.paced turn poll deadline).writer.isEnded = s.writer.isEnded :=
    WriteLoop.isEnded_paced s.writer poll deadline
  simp only [report?, reading, ended]
  rfl

/-- Where the read loop waits, the write loop moves whoever has the turn. -/
theorem step_of_waiting (h : s.readStep = none) :
    s.step = s.writeStep.map fun s' => { s' with turn := .writer } := by
  cases ht : s.turn with
  | reader => simp only [step, ht, h]
  | writer =>
      cases hw : s.writeStep with
      | none => simp only [step, ht, hw, h, Option.map_none]
      | some s' =>
          obtain ⟨w, events, _, rfl⟩ := writeStep_eq_some hw
          simp only [step, ht, hw, Option.map_some, Option.some.injEq]
          rw [← ht]
          rfl

theorem step_of_read (turn : s.turn = .reader) (move : s.readStep = some s') :
    s.step = some s' := by
  simp only [step, turn, move]

theorem step_of_write (turn : s.turn = .writer) (move : s.writeStep = some s') :
    s.step = some s' := by
  simp only [step, turn, move]

theorem step_of_read_back (turn : s.turn = .writer) (waits : s.writeStep = none)
    (move : s.readStep = some s') : s.step = some { s' with turn := .reader } := by
  simp only [step, turn, waits, move, Option.map_some]

theorem mem_timers {tick : Nat} : tick ∈ s.timers ↔
    (s.reading = .receiving ∧ s.inbound.wake = some tick) ∨ s.writer.deadline? = some tick ∨
      s.cancelAt = some tick ∨ s.shutdownAt = some tick ∨ s.peer.due? = some tick := by
  cases hr : s.reading <;> simp [timers, hr, eq_comm]

/-- The clock of a session that polls goes on to the same timer, or to its deadline before it. -/
theorem nextTick_paced (waiting : ∀ due, s.writer.deadline? = some due → s.now < due)
    (late : limit < deadline) (turn : Turn) (poll : Nat) :
    s.nextTick limit = (s.paced turn poll deadline).nextTick limit ∨
      s.now < s.nextTick limit ∧
        s.nextTick limit < (s.paced turn poll deadline).nextTick limit := by
  cases hp : s.writer.phase with
  | polling due =>
      have other : (s.paced turn poll deadline).writer.deadline? = some deadline := by
        simp [paced, WriteLoop.paced, WriteLoop.deadline?, hp]
      have own : s.writer.deadline? = some due := by simp [WriteLoop.deadline?, hp]
      have soon := waiting due own
      have least : s.nextTick limit = min ((s.paced turn poll deadline).nextTick limit) due := by
        apply eq_of_forall_le_iff
        intro c
        rw [nextTick, nextTick, Nat.le_min, le_foldl_min_iff, le_foldl_min_iff]
        simp only [mem_timers, own, other, Option.some.injEq]
        constructor
        · rintro ⟨bound, all⟩
          refine ⟨⟨bound, fun tick mem => ?_⟩, all due (Or.inr (Or.inl rfl))⟩
          rcases mem with mem | rfl | mem
          · exact all tick (Or.inl mem)
          · omega
          · exact all tick (Or.inr (Or.inr mem))
        · rintro ⟨⟨bound, all⟩, first⟩
          refine ⟨bound, fun tick mem => ?_⟩
          rcases mem with mem | rfl | mem
          · exact all tick (Or.inl mem)
          · exact first
          · exact all tick (Or.inr (Or.inr mem))
      omega
  | sending a =>
      exact Or.inl (by simp [nextTick, timers, paced, WriteLoop.paced, WriteLoop.deadline?, hp])
  | ended =>
      exact Or.inl (by simp [nextTick, timers, paced, WriteLoop.paced, WriteLoop.deadline?, hp])

/-- A session that is over is over at any pace. -/
theorem Unhurried.over (h : Unhurried limit s b) (halted : s.next limit = none) :
    b.next limit = none := by
  obtain ⟨quiet, ended⟩ := over_of_next_eq_none halted
  cases h with
  | mk far late later =>
      apply next_eq_none (quiet_paced quiet later _ _)
      rwa [isFinished_paced]

theorem writeStep_keeps (h : s.writeStep = some s') : s'.now = s.now ∧ s'.turn = s.turn := by
  obtain ⟨w, events, _, rfl⟩ := writeStep_eq_some h
  exact ⟨rfl, rfl⟩

/-- Only the pace of a session has changed. -/
def PaceOnly (s s' : Session) : Prop :=
  ∀ turn poll deadline, s'.paced turn poll deadline = s.paced turn poll deadline

theorem PaceOnly.readStep (h : PaceOnly s s') (waits : s.readStep = none) : s'.readStep = none := by
  have read := readStep_paced s' s.turn 0 0
  rw [h s.turn 0 0, readStep_paced, waits, Option.map_none] at read
  exact Option.map_eq_none_iff.mp read.symm

/-- Where a loop moves, the same loop moves in the session beside it, or the move was a poll. -/
theorem Unhurried.step (h : Unhurried limit s b) (attended : Attended s)
    (move : s.step = some s') :
    ∃ b', Unhurried limit s' b' ∧ (b.step = some b' ∨ b' = b ∧ PaceOnly s s') := by
  cases h with
  | @mk turn poll deadline far late later turns =>
      have read := readStep_paced s turn poll deadline
      have setting {due : Nat} (which : due = deadline ∨ due = s.now + poll) :
          limit < due ∧ s.now < due := by omega
      cases hr : s.readStep with
      | none =>
          rw [hr, Option.map_none] at read
          rw [step_of_waiting hr] at move
          obtain ⟨s₁, hw, rfl⟩ := Option.map_eq_some_iff.mp move
          obtain ⟨now, _⟩ := writeStep_keeps hw
          rcases writeStep_paced hw attended turn poll deadline with ⟨due, which, side⟩ | same
          · refine ⟨s₁.paced .writer poll due, ?_, Or.inl ?_⟩
            · exact .mk (s := { s₁ with turn := .writer }) far (setting which).1
                (now ▸ (setting which).2) (Or.inl rfl)
            · rw [step_of_waiting read, side]
              rfl
          · have only : PaceOnly s { s₁ with turn := .writer } := same
            refine ⟨_, ?_, Or.inr ⟨rfl, only⟩⟩
            rw [← only]
            exact .mk far late (now ▸ later) (Or.inr (only.readStep hr))
      | some s₁ =>
          have held : turn = s.turn := by simpa [hr] using turns
          rw [hr, Option.map_some] at read
          have now : s₁.now = s.now := (reads_of_readStep hr).instant.now
          have kept : s₁.turn = s.turn := congrArg Aside.turn (aside_of_readStep hr)
          obtain ht | ht : s.turn = .reader ∨ s.turn = .writer := by cases s.turn <;> simp
          · obtain rfl := Option.some.inj ((step_of_read ht hr).symm.trans move)
            refine ⟨s₁.paced turn poll deadline, ?_, Or.inl ?_⟩
            · exact .mk far late (now ▸ later) (Or.inl (held.trans kept.symm))
            · exact step_of_read (held.trans ht) read
          · cases hw : s.writeStep with
            | none =>
                have waits := writeStep_paced_eq_none hw later turn poll
                obtain rfl := Option.some.inj ((step_of_read_back ht hw hr).symm.trans move)
                refine ⟨s₁.paced .reader poll deadline, ?_, Or.inl ?_⟩
                · exact .mk (s := { s₁ with turn := .reader }) far late (now ▸ later) (Or.inl rfl)
                · exact step_of_read_back (held.trans ht) waits read
            | some s₂ =>
                obtain rfl := Option.some.inj ((step_of_write ht hw).symm.trans move)
                obtain ⟨now, kept⟩ := writeStep_keeps hw
                rcases writeStep_paced hw attended turn poll deadline with
                  ⟨due, which, side⟩ | same
                · refine ⟨s₂.paced turn poll due, ?_, Or.inl ?_⟩
                  · exact .mk far (setting which).1 (now ▸ (setting which).2)
                      (Or.inl (held.trans kept.symm))
                  · exact step_of_write (held.trans ht) side
                · refine ⟨_, ?_, Or.inr ⟨rfl, same⟩⟩
                  rw [← same]
                  exact .mk far late (now ▸ later) (Or.inl (held.trans kept.symm))

/-- The same future: the run ends alike, and a record gains the same. -/
def SameFuture (record : Session → List α) (limit : Nat) (s s' : Session) : Prop :=
  s'.run limit = s.run limit ∧ s'.diary record limit = s.diary record limit

/-- A repetition of a run has its counterpart in the session beside it, or nothing happens in it
that the session beside it would not come to anyway. -/
theorem Unhurried.next {record : Session → List α} (blind : Blind record) (h : Unhurried limit s b)
    (attended : Attended s) (next : s.next limit = some s') :
    ∃ b', Unhurried limit s' b' ∧
      (b.next limit = some b' ∨ record s' = record s ∧ SameFuture record limit b b') := by
  rcases next_cases next with move | ⟨quiet, running, short, due, rfl⟩ |
    ⟨quiet, running, short, idle, rfl⟩
  · obtain ⟨b', beside, move | ⟨rfl, only⟩⟩ := h.step attended move
    · exact ⟨b', beside, Or.inl (by simp only [Session.next, move])⟩
    · refine ⟨b', beside, Or.inr ⟨?_, rfl, rfl⟩⟩
      rw [← blind.paced s' .reader 0 0, only, blind.paced]
  · cases h with
    | @mk turn poll deadline far late later turns =>
        refine ⟨s.settle.paced .reader poll deadline, .mk far late later (Or.inl rfl), Or.inl ?_⟩
        have running' := (isFinished_paced s turn poll deadline).trans running
        exact next_settle (quiet_paced quiet later turn poll) running' short due
  · cases h with
    | @mk turn poll deadline far late later turns =>
        have running' := (isFinished_paced s turn poll deadline).trans running
        have quiet' := quiet_paced quiet later turn poll
        have bound := (nextTick_le limit s).1
        have beside : Unhurried limit (s.advance limit)
            ((s.advance limit).paced .reader poll deadline) := by
          refine .mk far late ?_ (Or.inl rfl)
          simp only [advance]
          omega
        refine ⟨_, beside, ?_⟩
        have waiting : ∀ due, s.writer.deadline? = some due → s.now < due := by
          intro due own
          cases writeStep_eq_none quiet.2 with
          | ended phase => simp [WriteLoop.deadline?, phase] at own
          | blocked sending => simp [WriteLoop.deadline?, sending] at own
          | idle polling _ _ early =>
              simp only [WriteLoop.deadline?, polling, Option.some.injEq] at own
              exact own ▸ early
        rcases nextTick_paced waiting late turn poll with same | ⟨after, before⟩
        · left
          rw [next_advance quiet' running' short idle]
          simp only [advance, same]
          rfl
        · right
          refine ⟨blind.atMoment s ⟨_, false⟩, ?_⟩
          have tick : max (s.now + 1) (s.nextTick limit) = s.nextTick limit := by omega
          have stops : (s.advance limit).paced .reader poll deadline =
              (s.paced turn poll deadline).atMoment ⟨s.nextTick limit, false⟩ := by
            rw [← tick]
            rfl
          rw [stops]
          have polls : 1 ≤ poll := by omega
          exact run_dozing blind polls quiet' running' idle after before

/-- A session goes as the one beside it, up to the pace of the write loop. -/
theorem Unhurried.run {record : Session → List α} (blind : Blind record)
    (h : Unhurried limit s b) (attended : Attended s) (poll : 1 ≤ s.writer.poll) :
    (∃ turn poll deadline, b.run limit = (s.run limit).paced turn poll deadline) ∧
      b.diary record limit = s.diary record limit := by
  revert b
  revert attended
  apply run_induction limit ?_ ?_ poll
  · intro s halted attended b h
    have halted' := h.over halted
    rw [run_of_over halted, run_of_over halted', diary_of_over record halted,
      diary_of_over record halted']
    cases h with
    | @mk turn poll deadline => exact ⟨⟨turn, poll, deadline, rfl⟩, rfl⟩
  · intro s s' poll next ih attended b h
    obtain ⟨b', beside, how⟩ := h.next blind attended next
    have ends := ih (attended.reaches (reaches_next (next_of_eq_some next))) beside
    have shown : record b = record s ∧ b.moment = s.moment ∧ 1 ≤ b.writer.poll := by
      cases h with
      | mk far => exact ⟨blind.paced .., rfl, Nat.one_le_of_lt far⟩
    have shown' : record b' = record s' := by
      cases beside with
      | mk => exact blind.paced ..
    rw [run_of_next poll next, diary_of_next record poll next]
    rcases how with next' | ⟨silent, run, diary⟩
    · rw [run_of_next shown.2.2 next', diary_of_next record shown.2.2 next', ends.2]
      refine ⟨ends.1, ?_⟩
      simp only [gain, shown.1, shown', shown.2.1]
    · rw [← run, ← diary, gain_of_same silent]
      exact ends

/-- Two sessions of which the same can be seen: only the pace of the write loop differs. -/
def SeenAlike (s s' : Session) : Prop :=
  ∃ turn poll deadline turn' poll' deadline',
    s.paced turn poll deadline = s'.paced turn' poll' deadline'

theorem SeenAlike.congr {β : Type} (h : SeenAlike s s') (view : Session → β)
    (blind : ∀ s turn poll deadline, view (s.paced turn poll deadline) = view s) :
    view s = view s' := by
  obtain ⟨turn, poll, deadline, turn', poll', deadline', same⟩ := h
  rw [← blind s turn poll deadline, same, blind]

/-- At any pace a session comes to the same: both go as the one that waits beyond the limit. -/
theorem run_paced (limit : Nat) {record : Session → List α} (blind : Blind record)
    (attended : Attended s)
    (polls : 1 ≤ s.writer.poll) (polls' : 1 ≤ poll) (deadline : Nat) :
    SeenAlike ((s.paced s.turn poll deadline).run limit) (s.run limit) ∧
      (s.paced s.turn poll deadline).diary record limit = s.diary record limit := by
  let far := max limit s.now + 1
  have beyond : limit < far ∧ s.now < far := by omega
  let twin := s.paced s.turn far far
  have beside : Unhurried limit s twin := .mk beyond.1 beyond.1 beyond.2 (Or.inl rfl)
  have again : (s.paced s.turn poll deadline).paced s.turn far far = twin := by
    cases hp : s.writer.phase <;> simp [twin, paced, WriteLoop.paced, hp]
  have beside' : Unhurried limit (s.paced s.turn poll deadline) twin :=
    again ▸ .mk beyond.1 beyond.1 beyond.2 (Or.inl rfl)
  obtain ⟨⟨turn, poll₁, deadline₁, run⟩, diary⟩ := beside.run blind attended polls
  obtain ⟨⟨turn', poll₂, deadline₂, run'⟩, diary'⟩ :=
    beside'.run blind ⟨attended.done, attended.senders, attended.flag⟩ polls'
  exact ⟨⟨turn', poll₂, deadline₂, turn, poll₁, deadline₁, run'.symm.trans run⟩,
    diary'.symm.trans diary⟩

end Comparison

section Writing

/-- What has been written stays written. -/
theorem written_prefix_of_next (h : Next limit s s') : s.written <+: s'.written := by
  cases h with
  | @read s₁ turn move =>
      have same : s₁.written = s.written := congrArg Aside.written (aside_of_readStep move)
      exact same ▸ List.prefix_refl _
  | @write s₁ turn move =>
      obtain ⟨w, events, hw, rfl⟩ := writeStep_eq_some move
      obtain ⟨more, _, written, _⟩ := hw.sent_eq
      exact ⟨more, written.symm⟩
  | settle | advance => exact List.prefix_refl _

theorem blind_written : Blind written := ⟨fun _ _ _ _ => rfl, fun _ _ => rfl⟩

/-- All that has been noted, in order. -/
def noted (s : Session) : List Event :=
  s.log.reverse

theorem blind_noted : Blind noted := ⟨fun _ _ _ _ => rfl, fun _ _ => rfl⟩

variable (plan : SessionPlan) (wait : Duration) (attempt : Nat) (stream : StreamScript)
  (around : Surroundings) (opened : Moment) (g : Seeded) (cancelled : Bool)

theorem begun_paced :
    begun { plan with writePoll := wait } attempt stream around opened g cancelled =
    (begun plan attempt stream around opened g cancelled).paced .reader (max 1 wait.ticks)
      (opened.tick + max 1 wait.ticks) := by
  cases cancelled <;> rfl

end Writing

end Session

namespace Attempt

theorem stream_alike {opening : List Event} {limit : Nat} {s s' : Session}
    (alike : (s'.run limit).SeenAlike (s.run limit)) :
    (stream opening limit s').1 = (stream opening limit s).1 := by
  have report : (s'.run limit).report? = (s.run limit).report? :=
    alike.congr Session.report? Session.report_paced
  have log : (s'.run limit).log = (s.run limit).log :=
    alike.congr Session.log fun _ _ _ _ => rfl
  have moment : (s'.run limit).moment = (s.run limit).moment :=
    alike.congr Session.moment fun _ _ _ _ => rfl
  simp only [stream, Session.endEvents, report, log, moment]

/-- An attempt does not depend on the poll. -/
theorem run_paced (plan : SessionPlan) (wait : Duration) (around : Surroundings) (limit : Nat)
    (t : ScriptedTransport Session) (attempt : Nat) (now : Moment) :
    (run { plan with writePoll := wait } around limit t attempt now).1 =
      (run plan around limit t attempt now).1 := by
  cases down : around.hasShutDown now with
  | true => simp only [run, openOn, down, if_true]
  | false =>
      cases fits : Queue.admits plan.channelBuffer with
      | false => simp [run, openOn, down, fits]
      | true =>
          rcases call : t.call now.tick with ⟨result, t'⟩
          cases result with
          | error e => simp [run, openOn, down, fits, call]
          | ok script =>
              obtain ⟨alike, _⟩ := Session.run_paced limit Session.blind_noted
                (Session.attended_start plan attempt script around now)
                (Nat.le_max_left 1 plan.writePoll.ticks) (Nat.le_max_left 1 wait.ticks)
                (now.tick + max 1 wait.ticks)
              simp only [run, openOn, down, fits, call, Bool.not_true, Bool.false_eq_true, if_false]
              exact stream_alike alike

end Attempt

namespace Session

/-- The poll of the write loop cannot be seen. Two sessions that differ only in it report the same
at the same moment, note the same events at the same moments, and write the same acknowledgements in
the same order at the same moments. Whatever schedule the peer follows in reading and hanging up,
and whenever a cancel or a shutdown comes. -/
theorem write_poll_unseen (plan : SessionPlan) (wait : Duration) (attempt : Nat)
    (stream : StreamScript) (around : Surroundings) (opened : Moment) (g : Seeded)
    (cancelled : Bool) (limit : Nat) :
    let first := begun plan attempt stream around opened g cancelled
    let other := begun { plan with writePoll := wait } attempt stream around opened g cancelled
    (other.run limit).report? = (first.run limit).report? ∧
    (other.run limit).moment = (first.run limit).moment ∧
    (other.run limit).written = (first.run limit).written ∧
    (∀ horizon, (other.run limit).given horizon = (first.run limit).given horizon) ∧
    other.diary written limit = first.diary written limit ∧
    (first.diary written limit).map Prod.snd = (first.run limit).written ∧
    other.diary noted limit = first.diary noted limit ∧
    ∀ t k now, (Attempt.run { plan with writePoll := wait } around limit t k now).1 =
      (Attempt.run plan around limit t k now).1 := by
  intro first other
  have attended : Attended first := attended_begun plan attempt stream around opened g cancelled
  have polls : 1 ≤ first.writer.poll :=
    one_le_poll_begun plan attempt stream around opened g cancelled
  have turn : first.turn = .reader := by cases cancelled <;> rfl
  have pace : other = first.paced first.turn (max 1 wait.ticks)
      (opened.tick + max 1 wait.ticks) := by
    rw [turn]
    exact begun_paced plan wait attempt stream around opened g cancelled
  obtain ⟨alike, writes⟩ := run_paced limit blind_written attended polls
    (Nat.le_max_left 1 wait.ticks) (opened.tick + max 1 wait.ticks)
  obtain ⟨_, notes⟩ := run_paced limit blind_noted attended polls
    (Nat.le_max_left 1 wait.ticks) (opened.tick + max 1 wait.ticks)
  rw [← pace] at alike writes notes
  have unwritten : first.written = [] := by
    have sent := (inOrder_begun plan attempt stream around opened g cancelled 0).sent
    have nothing : first.writer.sent = 0 := by cases cancelled <;> rfl
    exact List.length_eq_zero_iff.mp (sent.symm.trans nothing)
  have complete := diary_complete written limit
    (fun _ _ => written_prefix_of_next) polls
  rw [unwritten, List.nil_append] at complete
  refine ⟨alike.congr report? report_paced, alike.congr moment fun _ _ _ _ => rfl,
    alike.congr written fun _ _ _ _ => rfl, fun horizon => ?_, writes, complete.symm, notes, ?_⟩
  · exact alike.congr (fun s => s.given horizon) fun _ _ _ _ => rfl
  · exact Attempt.run_paced plan wait around limit

/-- A peer that reads one acknowledgement after four ticks makes room for the second one, and hangs
up before there is room for a third, whether the write loop looks around at each tick or twice a
second. -/
example :
    let plan : SessionPlan := ⟨.reliable ⟨⟨0⟩, some 11⟩, none, .ofMillis 500, 1⟩
    let stream : StreamScript := ⟨[StreamScript.message 7 [], StreamScript.message 5 [],
      .wait (.ofMillis 3), StreamScript.message 9 [], StreamScript.message 2 []], .close⟩
    let around : Surroundings := { Surroundings.quiet with
      plan := .follow [⟨.ofMillis 4, .take 1⟩, ⟨.ofMillis 2, .leave⟩] }
    let first (wait : Duration) :=
      begun { plan with writePoll := wait } 1 stream around .origin (.ofSeed 12) false
    (first (.ofMillis 1)).diary written 100 = [(⟨0, false⟩, 7), (⟨4, true⟩, 5)] ∧
      (first (.ofMillis 500)).diary written 100 = [(⟨0, false⟩, 7), (⟨4, true⟩, 5)] := by
  decide +kernel

end Session

end DuplexStream
