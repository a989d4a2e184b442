import DuplexStream.Proofs.Cancel.Families
import DuplexStream.Proofs.Session.Promptness

/-!
# The record of a cancel

A cancel is recorded in the flag that all handles of a session share, and the outcome is told from
this record when both loops have ended. A `Scene` is a session with the handles around it. The
surroundings have their turn before the session begins and whenever both loops wait: then any handle
may be used, as often as anybody likes, and a shutdown may come. A session whose read loop has ended
does not wait before it is over, so no request finds it in that state, and the record stands exactly
when the read loop has ended on a cancel (`Scene.Recorded`).
-/

namespace DuplexStream

namespace CancelRegistry

variable {r : CancelRegistry} {handle : Nat} {f : CancelFlag}

/-- The family of a handle has come to another flag. -/
def share (r : CancelRegistry) (handle : Nat) (f : CancelFlag) : CancelRegistry :=
  match r.handles[handle]? with
  | some family => { r with families := r.families.set family f }
  | none => r

theorem flag?_share (h : r.flag? handle = some f) (f' : CancelFlag) :
    (r.share handle f').flag? handle = some f' := by
  obtain ⟨family, he, hf⟩ := flag?_eq_some h
  have lt : family < r.families.length := (List.getElem?_eq_some_iff.mp hf).1
  simp [share, flag?, he, lt]

end CancelRegistry

/-- How the read loop of a session can end. -/
inductive Ending.Observed : Ending → Prop
  | remoteClosed : Observed .remoteClosed
  | localCancel : Observed .localCancel
  | status (st : Status) : Observed (.status st)
  | taskCancelled : Observed .taskCancelled

namespace Session

variable {s s' : Session}

/-- What a move of the read loop does to the record. It leaves it alone, and when it ends it ends on
a cancel exactly if one is signalled; or the trigger cancels the session and ends it. -/
inductive Notices (s s' : Session) : Prop
  | live (cancel : s'.cancel = s.cancel) (trigger : s'.trigger.fired = s.trigger.fired)
      (live : ∀ t, s'.reading ≠ .ended t)
  | ended {t : Ending} (cancel : s'.cancel = s.cancel)
      (trigger : s'.trigger.fired = s.trigger.fired) (ended : s'.reading = .ended t)
      (observed : t.Observed) (kind : s.cancel.signalled = true ↔ t = .localCancel)
  | fired (cancel : s'.cancel.requested = true) (trigger : s'.trigger.fired = true)
      (ended : s'.reading = .ended .localCancel)

section Notices

theorem notices_afterMessage (cancel : s'.cancel = s.cancel) (trigger : s'.trigger = s.trigger) :
    Notices s s'.afterMessage := by
  rcases s'.afterMessage_cases with ⟨_, he⟩ | ⟨_, he⟩ <;> rw [he]
  · exact .fired rfl rfl rfl
  · exact .live cancel (congrArg Trigger.fired trigger) nofun

/-- A loop that finds no request ends on no cancel. -/
theorem notices_ended {t : Ending} (calm : s.stop? = none) (cancel : s'.cancel = s.cancel)
    (trigger : s'.trigger = s.trigger) (ended : s'.reading = .ended t) (observed : t.Observed)
    (other : t ≠ .localCancel) : Notices s s' := by
  apply Notices.ended cancel (congrArg Trigger.fired trigger) ended observed
  apply iff_of_false _ other
  intro signalled
  simp [stop?, signalled] at calm

theorem notices_stopped {t : Ending} (stop : s.stop? = some t) : Notices s (s.endReading t) := by
  cases signalled : s.cancel.signalled with
  | true =>
      obtain rfl : Ending.localCancel = t := by simpa [stop?, signalled] using stop
      exact .ended rfl rfl rfl .localCancel (iff_of_true signalled rfl)
  | false =>
      have shut : s.shutdown = true ∧ Ending.taskCancelled = t := by
        simpa [stop?, signalled] using stop
      obtain ⟨_, rfl⟩ := shut
      exact .ended rfl rfl rfl .taskCancelled (iff_of_false (by simp [signalled]) (by decide))

theorem Reads.notices (move : Reads s s') : Notices s s' := by
  cases move with
  | stopped live stop => exact notices_stopped stop
  | closed receiving calm => exact notices_ended calm rfl rfl rfl .remoteClosed (by decide)
  | failed receiving calm => exact notices_ended calm rfl rfl rfl (.status _) (by simp)
  | moved receiving => exact .live rfl rfl (by simp [receiving])
  | ignored receiving => exact .live rfl rfl (by simp [note, receiving])
  | data receiving calm arrival verdict =>
      cases verdict with
      | plain => exact notices_afterMessage rfl rfl
      | passed => exact notices_afterMessage rfl rfl
      | unwanted => exact notices_afterMessage rfl rfl
      | queueing => exact .live rfl rfl (by simp)
  | queued => exact notices_afterMessage rfl rfl
  | refused => exact notices_afterMessage rfl rfl

/-- A move that is no request and none of the read loop. -/
structure Aloof (s s' : Session) : Prop where
  move : Move s s'
  cancel : s'.cancel = s.cancel
  shutdown : s'.shutdown = s.shutdown
  trigger : s'.trigger = s.trigger
  reading : s'.reading = s.reading

theorem aloof_write (move : s.writeStep = some s') : Aloof s s' := by
  obtain ⟨w, events, _, rfl⟩ := writeStep_eq_some move
  exact ⟨.write move, rfl, rfl, rfl, rfl⟩

theorem aloof_plan (s : Session) (turn : Turn) (settled : Bool) (cancelAt shutdownAt : Option Nat)
    (rest : Nat) (phase : Listening) :
    Aloof s { s with
      turn := turn
      settled := settled
      cancelAt := cancelAt
      shutdownAt := shutdownAt
      peer := { s.peer with rest := rest, phase := phase } } :=
  ⟨.plan s turn settled cancelAt shutdownAt rest phase, rfl, rfl, rfl, rfl⟩

theorem aloof_turn (s : Session) (turn : Turn) : Aloof s { s with turn := turn } :=
  aloof_plan s turn s.settled s.cancelAt s.shutdownAt s.peer.rest s.peer.phase

/-- Apart from the requests, only the peer acts at the turn of the surroundings. -/
theorem aloof_settle (s : Session) : Relation.ReflTransGen Aloof s.arrive s.settle := by
  rcases Peer.act_cases s.peer s.now s.writer.outbound with ⟨n, rest, phase, he⟩ | ⟨phase, he⟩
  · have take : Aloof s.arrive (s.arrive.peerTakes n) := ⟨.take _ n, rfl, rfl, rfl, rfl⟩
    have plan := aloof_plan (s.arrive.peerTakes n) .reader true (stillPlanned s.cancelAt s.now)
      (stillPlanned s.shutdownAt s.now) rest phase
    refine (Relation.ReflTransGen.single take).tail ?_
    simpa [settle, he, arrive, peerTakes] using plan
  · have hangUp : Aloof s.arrive s.arrive.peerHangsUp := ⟨.hangUp _, rfl, rfl, rfl, rfl⟩
    have plan := aloof_plan s.arrive.peerHangsUp .reader true (stillPlanned s.cancelAt s.now)
      (stillPlanned s.shutdownAt s.now) s.peer.rest phase
    refine (Relation.ReflTransGen.single hangUp).tail ?_
    simpa [settle, he, arrive, peerHangsUp] using plan

theorem aloof_advance (s : Session) (limit : Nat) :
    Relation.ReflTransGen Aloof s (s.advance limit) := by
  have later : s.now ≤ max (s.now + 1) (s.nextTick limit) := by omega
  obtain ⟨ticks, ht⟩ := Nat.exists_eq_add_of_le later
  have pass : Aloof s { s with now := s.now + ticks } := ⟨.pass s ticks, rfl, rfl, rfl, rfl⟩
  have plan := aloof_plan { s with now := s.now + ticks } .reader false s.cancelAt s.shutdownAt
    s.peer.rest s.peer.phase
  refine (Relation.ReflTransGen.single pass).tail ?_
  simpa [advance, ht] using plan

end Notices

end Session

/-- A session with the handles around it: whether the surroundings have their turn, and whether a
cancel has been asked for through a handle of the session. -/
structure Scene where
  session : Session
  handles : CancelRegistry
  outside : Bool
  asked : Bool

namespace Scene

variable {own : Nat} {x y : Scene} {limit : Nat}

/-- One thing that happens. The handle of the session itself is `own`. -/
inductive Step (own : Nat) (x : Scene) : Scene → Prop
  | read {s' : Session} (inside : x.outside = false) (move : x.session.readStep = some s') :
      Step own x { x with session := s', handles := x.handles.share own s'.cancel }
  | aloof {s' : Session} (move : x.session.Aloof s') : Step own x { x with session := s' }
  | wait (quiet : x.session.Quiet) (running : x.session.isFinished = false) :
      Step own x { x with outside := true }
  | resume : Step own x { x with outside := false }
  | handle (outside : x.outside = true) (step : CancelStep) {f : CancelFlag}
      (shared : (x.handles.step step).flag? own = some f) :
      Step own x { x with
        session := { x.session with cancel := f }
        handles := x.handles.step step
        asked := x.asked || x.handles.cancels own step }
  | shutDown (outside : x.outside = true) :
      Step own x { x with session := { x.session with shutdown := true } }

/-- A scene that another one can become. -/
abbrev Becomes (own : Nat) : Scene → Scene → Prop :=
  Relation.ReflTransGen (Step own)

/-- The scene before a session begins: a handle has been made for it, whatever others there are. -/
def before (s : Session) (handles : CancelRegistry) : Scene :=
  ⟨s, handles.step .fresh, true, false⟩

/-- A cancel is on record exactly when it has been asked for or the trigger has fired. The handles
agree about it. Once the read loop has ended, it is on record exactly when the loop has ended on a
cancel, and nothing can be asked for any more. -/
structure Recorded (own : Nat) (x : Scene) : Prop where
  attended : x.session.Attended
  shared : x.handles.flag? own = some x.session.cancel
  live : x.outside = true → ∀ t, x.session.reading ≠ .ended t
  requested : x.session.cancel.requested = true ↔
    x.asked = true ∨ x.session.trigger.fired = true
  ended : ∀ t, x.session.reading = .ended t →
    t.Observed ∧ (x.session.cancel.requested = true ↔ t = .localCancel)

section Steps

theorem recorded_before (plan : SessionPlan) (attempt : Nat) (stream : StreamScript)
    (around : Surroundings) (opened : Moment) (g : Seeded) (handles : CancelRegistry) :
    Recorded handles.handles.length
      (before ((Session.start plan attempt stream around opened).drawingFrom g) handles) where
  attended := (Session.attended_start plan attempt stream around opened).drawingFrom g
  shared := by
    simp only [before, CancelRegistry.step, CancelRegistry.flag?, List.getElem?_concat_length]
    rfl
  live := nofun
  requested := iff_of_false nofun (not_or.mpr ⟨nofun, nofun⟩)
  ended := nofun

theorem Recorded.read (h : Recorded own x) (inside : x.outside = false) {s' : Session}
    (move : x.session.readStep = some s') :
    Recorded own { x with session := s', handles := x.handles.share own s'.cancel } := by
  have reads := Session.reads_of_readStep move
  have attended := h.attended.reads reads
  have shared := CancelRegistry.flag?_share h.shared s'.cancel
  have live : x.outside = true → ∀ t, s'.reading ≠ .ended t := by simp [inside]
  have requested := h.requested
  cases reads.notices with
  | live cancel trigger reading =>
      refine ⟨attended, shared, live, ?_, fun t ended => absurd ended (reading t)⟩
      rw [cancel, trigger]
      exact requested
  | @ended t cancel trigger reading observed kind =>
      refine ⟨attended, shared, live, ?_, fun t' ended => ?_⟩
      · rw [cancel, trigger]
        exact requested
      · obtain rfl := Reading.ended.inj (reading.symm.trans ended)
        rw [cancel, h.attended.flag]
        exact ⟨observed, kind⟩
  | fired cancel trigger reading =>
      refine ⟨attended, shared, live, iff_of_true cancel (Or.inr trigger), fun t ended => ?_⟩
      obtain rfl := Reading.ended.inj (reading.symm.trans ended)
      exact ⟨.localCancel, iff_of_true cancel rfl⟩

/-- Whatever is done with handles, the session hears of a cancel exactly if its own family is
cancelled. -/
theorem Recorded.handle (h : Recorded own x) (outside : x.outside = true) {step : CancelStep}
    {f : CancelFlag} (shared : (x.handles.step step).flag? own = some f) :
    Recorded own { x with
      session := { x.session with cancel := f }
      handles := x.handles.step step
      asked := x.asked || x.handles.cancels own step } := by
  obtain rfl := Option.some.inj (shared.symm.trans (CancelRegistry.flag?_step h.shared step))
  have requested := h.requested
  refine ⟨⟨h.attended.done, h.attended.senders, ?_⟩, shared, h.live, ?_,
    fun t ended => absurd ended (h.live outside t)⟩
  · cases x.handles.cancels own step with
    | true => rfl
    | false => exact h.attended.flag
  · cases x.handles.cancels own step with
    | true => simp [CancelFlag.cancel]
    | false =>
        rw [Bool.or_false]
        exact requested

theorem Recorded.step (h : Recorded own x) (step : Step own x y) : Recorded own y := by
  cases step with
  | read inside move => exact h.read inside move
  | aloof move =>
      refine ⟨h.attended.move move.move, ?_, ?_, ?_, ?_⟩
      · rw [move.cancel]
        exact h.shared
      · rw [move.reading]
        exact h.live
      · rw [move.cancel, move.trigger]
        exact h.requested
      · rw [move.cancel, move.reading]
        exact h.ended
  | wait quiet running =>
      refine ⟨h.attended, h.shared, fun _ t ended => ?_, h.requested, h.ended⟩
      simp [h.attended.finished_of_quiet quiet ended] at running
  | resume => exact ⟨h.attended, h.shared, nofun, h.requested, h.ended⟩
  | handle outside step shared => exact h.handle outside shared
  | shutDown =>
      exact ⟨⟨h.attended.done, h.attended.senders, h.attended.flag⟩, h.shared, h.live, h.requested,
        h.ended⟩

theorem Recorded.becomes (h : Recorded own x) (becomes : Becomes own x y) : Recorded own y := by
  induction becomes with
  | refl => exact h
  | tail _ step ih => exact ih.step step

end Steps

section Runs

variable {s' : Session}

/-- While the surroundings have their turn the requests that are due arrive. -/
theorem becomes_arrive (h : Recorded own x) (outside : x.outside = true) :
    ∃ y, Becomes own x y ∧ y.session = x.session.arrive ∧ y.outside = true := by
  have shut : ∃ y, Becomes own x y ∧ y.outside = true ∧ y.session =
      { x.session with
        shutdown := x.session.shutdown || Session.isDue x.session.shutdownAt x.session.now } := by
    cases due : Session.isDue x.session.shutdownAt x.session.now with
    | false => exact ⟨x, .refl, outside, by rw [Bool.or_false]⟩
    | true => exact ⟨_, .single (.shutDown outside), outside, by rw [Bool.or_true]⟩
  obtain ⟨y, becomes, outside', session⟩ := shut
  cases due : Session.isDue x.session.cancelAt x.session.now with
  | false => exact ⟨y, becomes, by rw [session, Session.arrive, due]; rfl, outside'⟩
  | true =>
      have shared := CancelRegistry.flag?_step (h.becomes becomes).shared (.cancel own)
      have cancels : y.handles.cancels own (.cancel own) = true := by
        simp [CancelRegistry.cancels]
      rw [cancels, if_pos rfl] at shared
      refine ⟨_, becomes.tail (.handle outside' (.cancel own) shared), ?_, outside'⟩
      simp only [session, Session.arrive, due, if_true]

theorem becomes_aloof (aloof : Relation.ReflTransGen Session.Aloof x.session s') :
    Becomes own x { x with session := s' } := by
  induction aloof with
  | refl => exact .refl
  | tail _ move ih => exact ih.tail (.aloof move)

/-- A repetition of a run is made of such steps, after which it is not the surroundings' turn. -/
theorem becomes_next (h : Recorded own x) (inside : x.outside = false)
    (next : Session.Next limit x.session s') :
    ∃ y, Becomes own x y ∧ y.session = s' ∧ y.outside = false := by
  cases next with
  | read turn move =>
      refine ⟨_, .tail (.single (.read inside move)) (.aloof (Session.aloof_turn _ turn)), ?_,
        inside⟩
      rfl
  | write turn move =>
      refine ⟨_, .tail (.single (.aloof (Session.aloof_write move)))
        (.aloof (Session.aloof_turn _ turn)), ?_, inside⟩
      rfl
  | settle quiet running =>
      have wait : Step own x { x with outside := true } := .wait quiet running
      obtain ⟨y, becomes, session, _⟩ := becomes_arrive (h.step wait) rfl
      have settle : Becomes own y { y with session := x.session.settle } := by
        apply becomes_aloof
        rw [session]
        exact Session.aloof_settle x.session
      exact ⟨_, ((Relation.ReflTransGen.head wait becomes).trans settle).tail .resume, rfl, rfl⟩
  | advance => exact ⟨_, becomes_aloof (Session.aloof_advance x.session limit), rfl, inside⟩

/-- A run of a scene's session is made of such steps, too. -/
theorem becomes_run (h : Recorded own x) (limit : Nat) :
    ∃ y, Becomes own x y ∧ y.session = x.session.run limit := by
  have unfolds (s : Session) (hu : Session.Unfolds limit x.session s) :
      ∃ y, Becomes own x y ∧ y.session = s ∧ y.outside = false := by
    induction hu with
    | refl => exact ⟨_, .single .resume, rfl, rfl⟩
    | tail _ next ih =>
        obtain ⟨y, becomes, session, inside⟩ := ih
        obtain ⟨z, becomes', session', inside'⟩ :=
          becomes_next (h.becomes becomes) inside (session ▸ next)
        exact ⟨z, becomes.trans becomes', session', inside'⟩
  obtain ⟨y, becomes, session, _⟩ := unfolds _ (Session.unfolds_run limit x.session)
  exact ⟨y, becomes, session⟩

end Runs

/-- A report tells of an ending what the record says. -/
structure Tells (x : Scene) (t : Ending) (r : Report) : Prop where
  intentional : r.outcome = .failed .intentionalCancel ↔
    x.asked = true ∨ x.session.trigger.fired = true
  closed : t = .remoteClosed → r.outcome = .completed
  status : ∀ st, t = .status st → r.outcome = .failed (.ofStatus st)
  shutDown : t = .taskCancelled → r.outcome = .failed .localTaskCancelled
  detail : r.detail = t.detail?
  detailed : r.detail.isSome = true ↔ ∃ st, t = .status st

theorem ofStatus_ne (st : Status) : Failure.ofStatus st ≠ .intentionalCancel := by
  simp only [Failure.ofStatus]
  split <;> exact nofun

theorem Recorded.tells (h : Recorded own x) {r : Report} (reported : x.session.report? = some r) :
    ∃ t, x.session.reading = .ended t ∧ x.Tells t r := by
  obtain ⟨t, ended, _, rfl⟩ := Session.report_eq_some reported
  obtain ⟨observed, kind⟩ := h.ended t ended
  have asked := h.requested
  rw [kind] at asked
  have outcome : x.session.outcome t = t.outcome (decide (t = .localCancel)) := by
    have flag : x.session.cancel.requested = decide (t = .localCancel) := by
      rw [Bool.eq_iff_iff, decide_eq_true_iff]
      exact kind
    rw [Session.outcome, flag]
  refine ⟨t, ended, ?_⟩
  constructor
  · rw [← asked, outcome]
    cases observed with
    | remoteClosed => exact iff_of_false (by simp [Ending.outcome]) (by decide)
    | localCancel => exact iff_of_true rfl rfl
    | status st =>
        apply iff_of_false _ (by simp)
        intro same
        exact ofStatus_ne st (Outcome.failed.inj same)
    | taskCancelled => exact iff_of_false (by simp [Ending.outcome]) (by decide)
  · rintro rfl
    rfl
  · rintro st rfl
    exact outcome
  · rintro rfl
    exact outcome
  · rfl
  · cases observed with
    | remoteClosed | localCancel | taskCancelled =>
        exact iff_of_false (by simp [Ending.detail?]) (by simp)
    | status st => exact iff_of_true rfl ⟨st, rfl⟩

/-- Whenever a cancel or a shutdown comes, through whatever handle and however often, before the
session begins or while it waits: once the read loop has ended, a cancel is on record exactly when
the loop has ended on it, and no request can come any more. A report tells of an intended cancel
exactly when one has been asked for or the trigger has fired; a close, a status and a shutdown are
told as they are; only a status has a detail. All handles agree with the session, and its runs are
among the ways in which things can go. -/
theorem cancel_recorded (plan : SessionPlan) (attempt : Nat) (stream : StreamScript)
    (around : Surroundings) (opened : Moment) (g : Seeded) (handles : CancelRegistry) (x : Scene)
    (becomes : Becomes handles.handles.length
      (before ((Session.start plan attempt stream around opened).drawingFrom g) handles) x) :
    x.handles.flag? handles.handles.length = some x.session.cancel ∧
    (x.session.cancel.requested = true ↔ x.asked = true ∨ x.session.trigger.fired = true) ∧
    (∀ t, x.session.reading = .ended t →
      (x.session.cancel.requested = true ↔ t = .localCancel) ∧ x.outside = false) ∧
    (∀ r, x.session.report? = some r → ∃ t, x.session.reading = .ended t ∧ x.Tells t r) ∧
    (∀ limit, ∃ y, Becomes handles.handles.length x y ∧ y.session = x.session.run limit) := by
  have recorded : Recorded handles.handles.length x :=
    (recorded_before plan attempt stream around opened g handles).becomes becomes
  refine ⟨recorded.shared, recorded.requested, fun t ended => ⟨(recorded.ended t ended).2, ?_⟩,
    fun r => recorded.tells, becomes_run recorded⟩
  rw [← Bool.not_eq_true]
  intro outside
  exact recorded.live outside t ended

/-- A session that is stuck with full queues when it is cancelled after ten ticks; and one that a
clone of its handle cancels twice before it begins. -/
theorem cancel_recorded_stuck :
    let plan : SessionPlan := ⟨.reliable ⟨⟨0⟩, some 11⟩, none, .ofMillis 500, 1⟩
    let stream : StreamScript := ⟨[StreamScript.message 7 [], StreamScript.message 5 [],
      StreamScript.message 9 [], StreamScript.message 2 []], .fail ⟨.cancelled, "gone"⟩⟩
    let around : Surroundings := { Surroundings.quiet with cancelAt := some 10 }
    let first := before ((Session.start plan 1 stream around .origin).drawingFrom (.ofSeed 12))
      .single
    let cancelled : Scene :=
      ⟨first.session.requestCancel, ⟨[.clear, ⟨true, true⟩], [0, 1, 1]⟩, true, true⟩
    (∃ x r, Becomes 1 first x ∧ x.session.report? = some r ∧ r.elapsed = 10 ∧
      x.session.reading = .ended .localCancel ∧ x.session.cancel.requested = true ∧
      x.asked = true ∧ r.outcome = .failed .intentionalCancel ∧ r.detail = none) ∧
    Becomes 1 first cancelled ∧
    (∃ x r, Becomes 1 cancelled x ∧ x.session.report? = some r ∧ r.elapsed = 0 ∧
      x.session.reading = .ended .localCancel ∧ r.outcome = .failed .intentionalCancel) := by
  intro plan stream around first cancelled
  -- From a scene whose session runs into a cancel, the record and the report follow.
  have ends {x : Scene} (becomes : Becomes 1 first x) {n : Nat}
      (elapsed : (x.session.run 100).report?.map Report.elapsed = some n)
      (reading : (x.session.run 100).reading = .ended .localCancel) :
      ∃ y r, Becomes 1 x y ∧ y.session = x.session.run 100 ∧ y.session.report? = some r ∧
        r.elapsed = n ∧ y.session.reading = .ended .localCancel ∧
        y.session.cancel.requested = true ∧
        (y.asked = true ∨ y.session.trigger.fired = true) ∧
        r.outcome = .failed .intentionalCancel ∧ r.detail = none := by
    obtain ⟨y, later, session⟩ :=
      (cancel_recorded plan 1 stream around .origin (.ofSeed 12) .single x becomes).2.2.2.2 100
    obtain ⟨_, requested, ended, tells, _⟩ :=
      cancel_recorded plan 1 stream around .origin (.ofSeed 12) .single y (becomes.trans later)
    rw [← session] at elapsed reading
    obtain ⟨r, reported, elapsed⟩ := Option.map_eq_some_iff.mp elapsed
    obtain ⟨t, ended', told⟩ := tells r reported
    obtain rfl := Reading.ended.inj (reading.symm.trans ended')
    have cancel := (ended .localCancel reading).1.mpr rfl
    have wanted := requested.mp cancel
    exact ⟨y, r, later, session, reported, elapsed, reading, cancel, wanted,
      told.intentional.mpr wanted, told.detail⟩
  have cloned : Becomes 1 first cancelled :=
    ((Relation.ReflTransGen.single (.handle (f := .clear) rfl (.clone 1) rfl)).tail
      (.handle (f := ⟨true, true⟩) rfl (.cancel 2) rfl)).tail
        (.handle (f := ⟨true, true⟩) rfl (.cancel 2) rfl)
  refine ⟨?_, cloned, ?_⟩
  · obtain ⟨x, r, becomes, session, reported, elapsed, reading, cancel, wanted, outcome, detail⟩ :=
      ends .refl (n := 10) (by decide +kernel) (by decide +kernel)
    have unfired : x.session.trigger.fired = false := by
      rw [session]
      decide +kernel
    exact ⟨x, r, becomes, reported, elapsed, reading, cancel,
      wanted.resolve_right (Bool.eq_false_iff.mp unfired), outcome, detail⟩
  · obtain ⟨x, r, becomes, _, reported, elapsed, reading, _, _, outcome, _⟩ :=
      ends cloned (n := 0) (by decide +kernel) (by decide +kernel)
    exact ⟨x, r, becomes, reported, elapsed, reading, outcome⟩

end Scene

end DuplexStream
