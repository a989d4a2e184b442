import DuplexStream.Proofs.Controller.Timeline
import Mathlib.Data.Nat.Find

/-!
# The budget of a controller

Every attempt that is followed by another one has failed, so a run makes no more attempts than its
policy leaves, and always one, as long as its attempts can be counted. `Run.Visits` are all the runs
that a run passes through, also in the middle of a cycle: the counters stay within the policy at
each of them, so it makes no difference what becomes of a count beyond its range.
-/

namespace DuplexStream

/-- A source that plays a stream of outcomes: the attempt with a number comes to the outcome with
this number, whenever it is made. -/
def AttemptSource.Plays {σ : Type} (next : AttemptSource σ) (outcomes : Nat → Outcome) : Prop :=
  ∀ source attempt now, ∃ report,
    (next source attempt now).1.report? = some report ∧ report.outcome = outcomes attempt

/-- The attempts that a policy admits, and always one. -/
def RetryPolicy.bound (p : RetryPolicy) : Nat :=
  max 1 p.maxRetries.toNat

/-- The number of the last attempt: the first one with a final outcome, or the bound. -/
structure RetryPolicy.LastAttempt (p : RetryPolicy) (outcomes : Nat → Outcome) (n : Nat) :
    Prop where
  pos : 1 ≤ n
  le : n ≤ p.bound
  before : ∀ k, 1 ≤ k → k < n → (outcomes k).isFinal = false
  last : (outcomes n).isFinal = true ∨ n = p.bound

/-- There is a last attempt whatever the outcomes are. -/
theorem RetryPolicy.exists_lastAttempt (p : RetryPolicy) (outcomes : Nat → Outcome) :
    ∃ n, p.LastAttempt outcomes n := by
  have bounded : ∃ n, 1 ≤ n ∧ ((outcomes n).isFinal = true ∨ n = p.bound) :=
    ⟨p.bound, Nat.le_max_left 1 _, Or.inr rfl⟩
  obtain ⟨pos, last⟩ := Nat.find_spec bounded
  refine ⟨Nat.find bounded, pos, ?_, fun k hk hlt => ?_, last⟩
  · exact Nat.find_min' bounded ⟨Nat.le_max_left 1 _, Or.inr rfl⟩
  · have := Nat.find_min bounded hlt
    rw [not_and, not_or, Bool.not_eq_true] at this
    exact (this hk).1

theorem RetryPolicy.LastAttempt.le_of_last {p : RetryPolicy} {outcomes : Nat → Outcome} {n m : Nat}
    (h : p.LastAttempt outcomes n) (h' : p.LastAttempt outcomes m) : n ≤ m := by
  by_contra lt
  rw [Nat.not_le] at lt
  rcases h'.last with final | full
  · simp [h.before m h'.pos lt] at final
  · have := h.le
    omega

/-- As many attempts as a policy admits can be counted. -/
theorem RetryPolicy.bound_lt_size (p : RetryPolicy) : p.bound < UInt32.size :=
  max_lt (by decide) p.maxRetries.toNat_lt_size

theorem RetryPolicy.LastAttempt.unique {p : RetryPolicy} {outcomes : Nat → Outcome} {n m : Nat}
    (h : p.LastAttempt outcomes n) (h' : p.LastAttempt outcomes m) : n = m :=
  Nat.le_antisymm (h.le_of_last h') (h'.le_of_last h)

namespace Run

variable {σ : Type} {frame : RunFrame} {next : AttemptSource σ} {r r' : Run σ} {p : RetryPolicy}

/-- The run when it has decided about a report. -/
def decided (r : Run σ) (report : Report) : Run σ :=
  { r.record report with controller := (r.controller.judge report.outcome).2 }

/-- The runs that a run passes through: when an attempt has begun, when it has been made, when a
decision has been made, while it pauses, in whatever state, and at the end of a cycle. -/
inductive Visits (frame : RunFrame) (next : AttemptSource σ) : Run σ → Run σ → Prop
  | start (r : Run σ) : Visits frame next r r
  | begun (r : Run σ) : Visits frame next r (r.beginAttempt frame)
  | made {r r' : Run σ} {a : Attempt} (made : (r.beginAttempt frame).makeAttempt next = (a, r')) :
      Visits frame next r r'
  | decided {r r' : Run σ} {a : Attempt} {report : Report}
      (made : (r.beginAttempt frame).makeAttempt next = (a, r'))
      (reported : a.report? = some report) (events : List Event) :
      Visits frame next r ((r'.decided report).note events)
  | pausing {r r' : Run σ} {a : Attempt} {report : Report}
      (made : (r.beginAttempt frame).makeAttempt next = (a, r'))
      (reported : a.report? = some report) (events : List Event) (state : Phase) (m : Moment) :
      Visits frame next r { ((r'.decided report).note events).moveTo state with moment := m }
  | ended (r : Run σ) : Visits frame next r (afterCycle (r.cycle frame next))
  | later {r r₁ r' : Run σ} (goes : r.cycle frame next = .inl r₁)
    (visits : Visits frame next r₁ r') :
      Visits frame next r r'

section Counters

/-- A run before an attempt: the counters leave room for one more. -/
structure Ready (p : RetryPolicy) (r : Run σ) : Prop where
  policy : r.controller.policy = p
  failures : r.controller.failures ≤ r.controller.attempts
  few : r.controller.failures < max 1 p.cooldownThreshold.toNat
  left : r.controller.attempts < p.bound

/-- The counters are within the policy. -/
structure Within (p : RetryPolicy) (r : Run σ) : Prop where
  failures : r.controller.failures ≤ r.controller.attempts
  few : r.controller.failures ≤ max 1 p.cooldownThreshold.toNat
  attempts : r.controller.attempts ≤ p.bound

theorem ready_start (p : RetryPolicy) (source : σ) (now : Moment) :
    Ready p (start (.fresh p) source now) where
  policy := rfl
  failures := Nat.le_refl 0
  few := Nat.le_max_left 1 _
  left := Nat.le_max_left 1 _

/-- A run before an attempt has room for it. -/
theorem Ready.orderly (h : Ready p r) : r.controller.Orderly :=
  ⟨h.failures, Nat.lt_of_le_of_lt (Nat.succ_le_of_lt h.left) p.bound_lt_size⟩

theorem Ready.within (h : Ready p r) : Within p r :=
  ⟨h.failures, Nat.le_of_lt h.few, Nat.le_of_lt h.left⟩

/-- One attempt more, and at most one failure more. -/
theorem Ready.counted (h : Ready p r)
    (attempts : r'.controller.attempts = r.controller.attempts + 1)
    (failures : r'.controller.failures ≤ r.controller.failures + 1) : Within p r' where
  failures := by
    have := h.failures
    omega
  few := by
    have := h.few
    omega
  attempts := by
    have := h.left
    omega

/-- A run that goes on has room for one more attempt. -/
theorem Ready.cycle (h : Ready p r) (goes : r.cycle frame next = .inl r') : Ready p r' := by
  have leaves := leaves_of_goes goes
  have left := leaves.left
  have orderly := leaves.orderly h.orderly
  rw [h.policy] at left
  refine ⟨leaves.policy.trans h.policy, orderly.failures, ?_, ?_⟩
  · rcases leaves.failures with none | ⟨more, few⟩
    · rw [Controller.failures, none]
      exact Nat.le_max_left 1 _
    · rw [Controller.failures, more]
      rw [h.policy] at few
      exact Nat.lt_of_lt_of_le few (Nat.le_max_right _ _)
  · rw [leaves.attempts]
    exact Nat.lt_of_lt_of_le left (Nat.le_max_right _ _)

/-- A word is raised by at most one. -/
theorem toNat_succ_le (w : UInt32) : (w + 1).toNat ≤ w.toNat + 1 := by
  rw [UInt32.toNat_add]
  exact Nat.mod_le _ _

theorem judge_failures_le (c : Controller) (o : Outcome) :
    (c.judge o).2.failures ≤ c.failures + 1 := by
  have more := toNat_succ_le c.failureCount
  rcases c.judge_cases o with ⟨_, he⟩ | ⟨_, _, _, he⟩ | ⟨_, _, _, he⟩ <;> rw [he]
  · simp only [Controller.failures]
    split
    · exact Nat.zero_le _
    · exact Nat.le_succ _
  · exact more
  · exact more

/-- An attempt that has been made is counted, and no failure yet. -/
theorem counts_of_made {a : Attempt} (orderly : r.controller.Orderly)
    (made : (r.beginAttempt frame).makeAttempt next = (a, r')) :
    r'.controller.attempts = r.controller.attempts + 1 ∧
      r'.controller.failures = r.controller.failures := by
  obtain ⟨r'', he, left⟩ := makeAttempt_cases frame next r rfl
  rw [made, Prod.mk.injEq] at he
  obtain ⟨_, rfl⟩ := he
  exact ⟨(congrArg UInt32.toNat left.attemptCount).trans orderly.number,
    congrArg UInt32.toNat left.failureCount⟩

/-- A decision counts at most one failure more. -/
theorem counts_of_decided {a : Attempt} (report : Report) (orderly : r.controller.Orderly)
    (made : (r.beginAttempt frame).makeAttempt next = (a, r')) :
    (r'.decided report).controller.attempts = r.controller.attempts + 1 ∧
      (r'.decided report).controller.failures ≤ r.controller.failures + 1 := by
  obtain ⟨attempts, failures⟩ := counts_of_made orderly made
  have kept := congrArg UInt32.toNat (r'.controller.judge_keeps report.outcome).2
  have more := judge_failures_le r'.controller report.outcome
  rw [failures] at more
  exact ⟨kept.trans attempts, more⟩

/-- A cycle counts one attempt, and at most one failure more. -/
theorem counts_of_cycle (frame : RunFrame) (next : AttemptSource σ)
    (orderly : r.controller.Orderly) :
    (afterCycle (r.cycle frame next)).controller.attempts = r.controller.attempts + 1 ∧
      (afterCycle (r.cycle frame next)).controller.failures ≤ r.controller.failures + 1 := by
  have cycle := cycle_cycle next (accepted_of_orderly frame orderly)
  refine ⟨(congrArg UInt32.toNat cycle.counts.2.1).trans orderly.number, ?_⟩
  have same {r' : Run σ} (left : r'.controller.failureCount = r.controller.failureCount) :
      r'.controller.failures ≤ r.controller.failures + 1 :=
    Nat.le_trans (Nat.le_of_eq (congrArg UInt32.toNat left)) (Nat.le_succ _)
  generalize r.cycle frame next = x at cycle ⊢
  cases cycle with
  | unserviceable _ _ left => exact same left.failureCount
  | unfinished _ _ left => exact same left.failureCount
  | overflowed _ _ _ _ left => exact same left.failureCount
  | @stopped a source report c c' final r' made reported judge policy attempts failures counted =>
      have more := judge_failures_le c report.outcome
      rw [judge, Controller.failures, Controller.failures, failures] at more
      exact counted.failures ▸ more
  | @retried a source report c c' delay stop failures' m r' made reported judge policy attempts
      failures paused counted =>
      have remembered := (Controller.judge_retry judge).2.2
      have more : c'.failureCount.toNat ≤ r.controller.failures + 1 := by
        rw [remembered, failures]
        exact toNat_succ_le _
      rw [afterCycle_going, counted.failures]
      cases paused with
      | resumed | interrupted | expired | expiredCooling => exact more
      | cooled | interruptedCooling => exact Nat.zero_le _

/-- The counters are within the policy wherever a run passes through. -/
theorem Ready.visits (h : Ready p r) (visits : Visits frame next r r') : Within p r' := by
  induction visits with
  | start r => exact h.within
  | begun r => exact h.counted h.orderly.number (Nat.le_succ _)
  | made made =>
      obtain ⟨attempts, failures⟩ := counts_of_made h.orderly made
      exact h.counted attempts (failures ▸ Nat.le_succ _)
  | @decided r r' a report made reported events =>
      obtain ⟨attempts, failures⟩ := counts_of_decided report h.orderly made
      exact h.counted attempts failures
  | @pausing r r' a report made reported events state m =>
      obtain ⟨attempts, failures⟩ := counts_of_decided report h.orderly made
      exact h.counted attempts failures
  | ended r =>
      obtain ⟨attempts, failures⟩ := counts_of_cycle frame next h.orderly
      exact h.counted attempts failures
  | later goes _ ih => exact ih (h.cycle goes)

end Counters

section Overflow

/-- What becomes of a count beyond its range makes no difference to a decision about a report, if
the failures can be counted. -/
theorem follow_overflow (overflow : Overflow) (report : Report)
    (accepts : ∀ overflow : Overflow, overflow.refuses r.controller.failureCount = false) :
    r.follow { frame with overflow := overflow } report = r.follow frame report := by
  have counts (overflow : Overflow) :
      ¬ r.controller.overflows overflow report.outcome = true := by
    simp [Controller.overflows, accepts]
  rw [follow, follow, if_neg (counts _), if_neg (counts _)]
  rfl

theorem cycle_overflow (overflow : Overflow) (orderly : r.controller.Orderly) :
    r.cycle { frame with overflow := overflow } next = r.cycle frame next := by
  have accepted (frame : RunFrame) : ¬ r.refused frame = true :=
    Bool.not_eq_true _ ▸ accepted_of_orderly frame orderly
  obtain ⟨r', made, left⟩ := makeAttempt_cases frame next r rfl
  have accepts (overflow : Overflow) : overflow.refuses r'.controller.failureCount = false := by
    rw [left.failureCount]
    exact orderly.acceptsFailure overflow
  have made' : (r.beginAttempt { frame with overflow := overflow }).makeAttempt next = _ := made
  rw [cycle, cycle, if_neg (accepted _), if_neg (accepted _)]
  simp only [made, made', follow_overflow overflow _ accepts]

/-- An orderly run goes the same whatever becomes of a count beyond its range. -/
theorem cycles_overflow (overflow : Overflow) (n : Nat) (orderly : r.controller.Orderly) :
    cycles { frame with overflow := overflow } next n r = cycles frame next n r := by
  induction n generalizing r with
  | zero => rfl
  | succ n ih =>
      have same : r.cycle { frame with overflow := overflow } next = _ :=
        cycle_overflow overflow orderly
      cases he : r.cycle frame next with
      | inl r' =>
          rw [he] at same
          rw [cycles_of_goes he, cycles_of_goes same, ih ((leaves_of_goes he).orderly orderly)]
      | inr ended =>
          rw [he] at same
          rw [cycles_of_ends he, cycles_of_ends same]

/-- No count of an orderly run comes to the end of its range. -/
theorem cycles_not_overflowed (n : Nat) (orderly : r.controller.Orderly) :
    (cycles frame next n r).1 ≠ .overflowed := by
  induction n generalizing r with
  | zero => exact nofun
  | succ n ih =>
      cases he : r.cycle frame next with
      | inl r' =>
          rw [cycles_of_goes he]
          exact ih ((leaves_of_goes he).orderly orderly)
      | inr ended =>
          have cycle := cycle_cycle next (accepted_of_orderly frame orderly)
          rw [he] at cycle
          rw [cycles_of_ends he]
          obtain ⟨e, last⟩ := ended
          rintro rfl
          exact cycle.not_overflowed orderly

end Overflow

section Attempts

variable {n m : Nat}

/-- A run that has room for its first attempt makes no more attempts than the policy leaves, and
always one, even if it could repeat its cycle more often. -/
theorem length_trials_le_of_room (n : Nat) (room : r.controller.attempts + 1 < UInt32.size) :
    (trials frame next n r).length ≤
      max 1 (r.controller.policy.maxRetries.toNat - r.controller.attempts) := by
  induction n generalizing r with
  | zero => exact Nat.zero_le _
  | succ n ih =>
      have accepted : r.refused frame = false := frame.overflow.accepts room
      have number : r.controller.number = r.controller.attempts + 1 := toNat_raise room
      cases he : r.cycle frame next with
      | inr ended =>
          rw [trials_of_ends accepted he]
          exact Nat.le_max_left 1 _
      | inl r' =>
          have leaves := leaves_of_goes he
          have left := leaves.left
          have le := ih leaves.room
          rw [leaves.policy, leaves.attempts] at le
          rw [trials_of_goes he, List.length_cons]
          omega

/-- So does every run of a build that checks its counts. -/
theorem length_trials_le (n : Nat)
    (counts : r.controller.attempts + 1 < UInt32.size ∨ frame.overflow = .stops) :
    (trials frame next n r).length ≤
      max 1 (r.controller.policy.maxRetries.toNat - r.controller.attempts) := by
  rcases counts with room | stops
  · exact length_trials_le_of_room n room
  · cases refused : r.refused frame with
    | true =>
        cases n with
        | zero => exact Nat.zero_le _
        | succ n =>
            rw [trials_of_refused refused]
            exact Nat.zero_le _
    | false =>
        apply length_trials_le_of_room n
        by_contra full
        have last : r.controller.attemptCount = UInt32.ofNat (UInt32.size - 1) := by
          apply UInt32.toNat_inj.mp
          have word := r.controller.attemptCount.toNat_lt_size
          simp only [Controller.attempts] at full
          exact (by omega : r.controller.attemptCount.toNat = UInt32.size - 1)
        simp [Run.refused, Overflow.refuses, stops, last] at refused

/-- The bound on the number of cycles is never the reason why a run ends. -/
theorem cycles_congr (enough : budget r.controller ≤ n) (enough' : budget r.controller ≤ m) :
    cycles frame next n r = cycles frame next m r := by
  induction n generalizing r m with
  | zero => exact absurd enough (Nat.not_succ_le_zero _)
  | succ n ih =>
      obtain ⟨m, rfl⟩ := Nat.exists_eq_add_of_le' (Nat.le_trans (Nat.le_add_left 1 _) enough')
      cases he : r.cycle frame next with
      | inr ended => rw [cycles_of_ends he, cycles_of_ends he]
      | inl r' =>
          have leaves := leaves_of_goes he
          have left := leaves.left
          have budget_eq : budget r.controller = budget r'.controller + 1 := by
            rw [budget, budget, leaves.policy, leaves.number]
            omega
          rw [cycles_of_goes he, cycles_of_goes he]
          exact ih (by omega) (by omega)

end Attempts

section Ends

/-- The moment at which a pause is over. -/
def resumption (m : Moment) (delay : Duration) : Moment :=
  if delay.ticks = 0 then m else ⟨m.tick + delay.ticks, false⟩

theorem pauses_of_calm (calm : frame.Calm) (b : Bool) {m : Moment} {delay : Duration}
    (early : m.tick + delay.ticks ≤ frame.limit) :
    pauses b frame m delay = .resumed (resumption m delay) := by
  simp only [pauses, pause, calm.shutDown, calm.shutdownAt, Moment.reachedAny, Bool.or_self,
    Bool.false_eq_true, if_false, if_pos early, resumption]
  split <;> rfl

/-- What a run without a shutdown has counted at its end, after attempt number `n`. -/
structure EndsAfter (p : RetryPolicy) (outcomes : Nat → Outcome) (n : Nat)
    (ended : RunEnd × Run σ) : Prop where
  finished : ended.1 = .finished
  attempts : ended.2.controller.attempts = n
  state : ended.2.controller.state = if (outcomes n).isFinal then .done else .failed
  failures : 1 ≤ p.cooldownThreshold.toNat → ended.2.controller.failures =
    if outcomes n = .completed then 0
    else if (outcomes n).isFinal then (n - 1) % p.cooldownThreshold.toNat
    else (n - 1) % p.cooldownThreshold.toNat + 1

/-- A run before an attempt, after so many attempts, with so many failures, from a source at a
moment. -/
structure Stands (p : RetryPolicy) (attempts : Nat) (failures : UInt32) (source : σ) (m : Moment)
    (r : Run σ) : Prop where
  policy : r.controller.policy = p
  orderly : r.controller.Orderly
  attempts : r.controller.attempts = attempts
  failures : r.controller.failureCount = failures
  source : r.source = source
  moment : r.moment = m

theorem Stands.number {attempts : Nat} {failures : UInt32} {source : σ} {m : Moment}
    (h : Stands p attempts failures source m r) : r.controller.number = attempts + 1 := by
  rw [h.orderly.number, h.attempts]

variable {outcomes : Nat → Outcome} {n : Nat}

/-- The last attempt ends the run. -/
theorem endsAfter_of_last (frame : RunFrame) (plays : next.Plays outcomes)
    (last : p.LastAttempt outcomes n)
    {failures : UInt32} {source : σ} {m : Moment} (h : Stands p (n - 1) failures source m r)
    (inStep : 1 ≤ p.cooldownThreshold.toNat →
      failures.toNat = (n - 1) % p.cooldownThreshold.toNat) :
    ∃ ended, r.cycle frame next = .inr ended ∧ EndsAfter p outcomes n ended := by
  have number : r.controller.number = n := by
    have := last.pos
    rw [h.number]
    omega
  obtain ⟨report, reported, outcome⟩ := plays r.source r.controller.number r.moment
  rw [number] at outcome
  obtain ⟨a, source', made⟩ : ∃ a source', next r.source r.controller.number r.moment =
      (a, source') := ⟨_, _, rfl⟩
  rw [made] at reported
  cases pause : p.pauseAfter report.outcome with
  | none =>
      have final := (p.pauseAfter_eq_none_iff _).mp pause
      obtain ⟨r', he, state, counted⟩ := cycle_of_final frame (accepted_of_orderly frame h.orderly)
        made reported (h.policy ▸ pause)
      rw [outcome] at final counted
      refine ⟨_, he, rfl, counted.attempts.trans number, ?_, fun cools => ?_⟩
      · rw [if_pos final]
        exact state
      · rw [if_pos final]
        refine counted.failures.trans ?_
        rw [apply_ite UInt32.toNat, h.failures, inStep cools]
        rfl
  | some delay =>
      have failed : (outcomes n).isFinal = false := by
        rw [← Bool.not_eq_true, ← outcome, ← p.pauseAfter_eq_none_iff, pause]
        exact nofun
      have used : n = p.bound := last.last.resolve_left (by simp [failed])
      rcases cycle_of_failed frame h.orderly made reported (h.policy ▸ pause) with
        ⟨_, r', he, state, counted⟩ | ⟨left, _⟩
      · refine ⟨_, he, rfl, counted.attempts.trans number, ?_, fun cools => ?_⟩
        · simp only [failed, Bool.false_eq_true, if_false]
          exact state
        · have unfinished : outcomes n ≠ .completed := by
            intro completed
            simp [completed, Outcome.isFinal] at failed
          simp only [failed, Bool.false_eq_true, if_false, if_neg unfinished]
          refine counted.failures.trans ?_
          rw [h.orderly.failed, Controller.failures, h.failures, inStep cools]
      · rw [number, h.policy, used] at left
        simp only [RetryPolicy.bound] at left
        omega

/-- After a failed attempt that leaves another one the pauses come, and the run stands before the
next attempt if nothing ends them. -/
theorem Stands.pausing (frame : RunFrame) {attempts : Nat} {failures : UInt32} {source source' : σ}
    {m : Moment} {a : Attempt} {report : Report} {delay : Duration}
    (h : Stands p attempts failures source m r)
    (made : next source (attempts + 1) m = (a, source')) (reported : a.report? = some report)
    (pause : p.pauseAfter report.outcome = some delay)
    (left : attempts + 1 < p.maxRetries.toNat) :
    ∃ stop failures' m' r', r.cycle frame next = going stop r' ∧
      Paused frame p delay (failures + 1) a.ended stop failures' m' ∧
      (stop = none → Stands p (attempts + 1) failures' source' m' r') := by
  have made' : next r.source r.controller.number r.moment = (a, source') := by
    rw [h.source, h.number, h.moment, made]
  rcases cycle_of_failed frame h.orderly made' reported (h.policy ▸ pause) with
    ⟨used, _⟩ | ⟨_, stop, failures', m', r', he, paused, counted, _⟩
  · rw [h.policy, h.number] at used
    omega
  · rw [h.policy, h.failures] at paused
    refine ⟨stop, failures', m', r', he, paused, ?_⟩
    rintro rfl
    exact ⟨counted.policy.trans h.policy, (leaves_of_goes he).orderly h.orderly,
      counted.attempts.trans h.number, counted.failureCount, counted.source, counted.moment⟩

/-- What is left of so many failures after the pauses that they cause, and the moment at which the
pauses are over. -/
def afterPauses (p : RetryPolicy) (failures : UInt32) (m : Moment) (delay : Duration) :
    UInt32 × Moment :=
  if p.cooldownThreshold.toNat ≤ failures.toNat then
    (0, resumption (resumption m delay) p.cooldown)
  else (failures, resumption m delay)

/-- Without a shutdown, and with enough time, the pauses come to their end. -/
theorem paused_of_calm (calm : frame.Calm) (failures : UInt32) {m : Moment} {delay : Duration}
    (enough : m.tick + delay.ticks + p.cooldown.ticks ≤ frame.limit) :
    Paused frame p delay failures m none (afterPauses p failures m delay).1
      (afterPauses p failures m delay).2 := by
  have first := pauses_of_calm calm false (show m.tick + delay.ticks ≤ frame.limit by omega)
  have resumed_le : (resumption m delay).tick ≤ m.tick + delay.ticks := by
    rw [resumption]
    split
    · exact Nat.le_add_right _ _
    · exact Nat.le_refl _
  rw [afterPauses]
  split
  · next many =>
    exact .cooled first many (pauses_of_calm calm false (by omega))
  · next few => exact .resumed first (Nat.not_le.mp few)

/-- One failure more, in step with the attempts before, is in step with the attempts after it. -/
theorem inStep_afterPauses (cools : 1 ≤ p.cooldownThreshold.toNat) {attempts : Nat}
    (room : attempts + 1 < UInt32.size) {failures : UInt32}
    (inStep : failures.toNat = attempts % p.cooldownThreshold.toNat) (m : Moment)
    (delay : Duration) :
    (afterPauses p (failures + 1) m delay).1.toNat = (attempts + 1) % p.cooldownThreshold.toNat := by
  have raised : (failures + 1).toNat = attempts % p.cooldownThreshold.toNat + 1 := by
    have := Nat.mod_le attempts p.cooldownThreshold.toNat
    rw [toNat_raise (by omega), inStep]
  rcases mod_succ_cases (k := attempts) cools with ⟨many, _, zero⟩ | ⟨few, _, more⟩
  · rw [afterPauses, if_pos (raised ▸ many), zero]
    rfl
  · rw [afterPauses, if_neg (by omega), more]
    exact raised

/-- An attempt before the last one is followed by another one, if the clock has enough time for its
pauses. -/
theorem goes_of_before (plays : next.Plays outcomes) (last : p.LastAttempt outcomes n)
    {attempts : Nat} (before : attempts + 1 < n) (failures : UInt32) (source : σ) (m : Moment) :
    ∃ failures' source' m' late,
      (1 ≤ p.cooldownThreshold.toNat → failures.toNat = attempts % p.cooldownThreshold.toNat →
        failures'.toNat = (attempts + 1) % p.cooldownThreshold.toNat) ∧
      ∀ (frame : RunFrame) (r : Run σ), frame.Calm → late ≤ frame.limit →
        Stands p attempts failures source m r →
        ∃ r', r.cycle frame next = .inl r' ∧ Stands p (attempts + 1) failures' source' m' r' := by
  obtain ⟨report, reported, outcome⟩ := plays source (attempts + 1) m
  obtain ⟨a, source', made⟩ : ∃ a source', next source (attempts + 1) m = (a, source') :=
    ⟨_, _, rfl⟩
  rw [made] at reported
  obtain ⟨delay, pause⟩ : ∃ delay, p.pauseAfter report.outcome = some delay := by
    apply Option.ne_none_iff_exists'.mp
    rw [Ne, p.pauseAfter_eq_none_iff, outcome, last.before _ (Nat.le_add_left 1 _) before]
    exact nofun
  have left : attempts + 1 < p.maxRetries.toNat := by
    have := last.le
    simp only [RetryPolicy.bound] at this
    omega
  have room := Nat.lt_trans left p.maxRetries.toNat_lt_size
  refine ⟨(afterPauses p (failures + 1) a.ended delay).1, source',
    (afterPauses p (failures + 1) a.ended delay).2, a.ended.tick + delay.ticks + p.cooldown.ticks,
    fun cools inStep => inStep_afterPauses cools room inStep a.ended delay,
    fun frame r calm enough h => ?_⟩
  obtain ⟨stop, f', m', r', he, paused, stands⟩ := h.pausing frame made reported pause left
  obtain ⟨rfl, rfl, rfl⟩ := Paused.unique calm (paused_of_calm calm _ enough) paused
  exact ⟨r', he, stands rfl⟩

/-- A run without a shutdown comes to the last attempt, if the clock has enough time. -/
theorem endsAfter_cycles (plays : next.Plays outcomes) (last : p.LastAttempt outcomes n) (k : Nat)
    {attempts : Nat} (left : attempts + k + 1 = n) (failures : UInt32) (source : σ) (m : Moment)
    (inStep : 1 ≤ p.cooldownThreshold.toNat →
      failures.toNat = attempts % p.cooldownThreshold.toNat) :
    ∃ late, ∀ (frame : RunFrame) (r : Run σ), frame.Calm → late ≤ frame.limit →
      Stands p attempts failures source m r → ∀ fuel, k + 1 ≤ fuel →
        EndsAfter p outcomes n (cycles frame next fuel r) ∧
          (trials frame next fuel r).length = k + 1 := by
  induction k generalizing attempts failures source m with
  | zero =>
      refine ⟨0, fun frame r calm _ h fuel enough => ?_⟩
      obtain ⟨fuel, rfl⟩ := Nat.exists_eq_add_of_le' enough
      obtain rfl : attempts = n - 1 := by omega
      obtain ⟨ended, he, ends⟩ := endsAfter_of_last frame plays last h inStep
      rw [cycles_of_ends he, trials_of_ends (accepted_of_orderly frame h.orderly) he]
      exact ⟨ends, rfl⟩
  | succ k ih =>
      obtain ⟨failures', source', m', late, inStep', goes⟩ :=
        goes_of_before plays last (show attempts + 1 < n by omega) failures source m
      obtain ⟨late', ends⟩ := ih (show attempts + 1 + k + 1 = n by omega) failures' source' m'
        fun cools => inStep' cools (inStep cools)
      refine ⟨max late late', fun frame r calm enough h fuel more => ?_⟩
      obtain ⟨fuel, rfl⟩ := Nat.exists_eq_add_of_le' (Nat.le_trans (Nat.le_add_left 1 _) more)
      obtain ⟨r', he, h'⟩ := goes frame r calm (by omega) h
      obtain ⟨done, length⟩ := ends frame r' calm (by omega) h' fuel (by omega)
      rw [cycles_of_goes he, trials_of_goes he,
        List.length_cons, length]
      exact ⟨done, rfl⟩

end Ends

/-- Whatever the outcomes are: without a shutdown a fresh controller makes attempts until the first
one with a final outcome, or until there are as many as its policy admits, provided that the clock
has enough time. At every point of any run the counters are within the policy; no count comes to the
end of its range, and it makes no difference what would become of one that does. A run of a
controller that has made attempts before makes as many as are left, or one, if it can count its
first one, or checks its counts; no bound on the number of its cycles changes that. -/
theorem retry_budget (policy : RetryPolicy) (next : AttemptSource σ) (outcomes : Nat → Outcome)
    (plays : next.Plays outcomes) (source : σ) (now : Moment) :
    (∃ n, policy.LastAttempt outcomes n ∧ ∃ late, ∀ frame : RunFrame, frame.Calm →
      late ≤ frame.limit →
        EndsAfter policy outcomes n (toEnd frame next (.fresh policy) source now) ∧
        (trials frame next (budget (.fresh policy))
          (start (.fresh policy) source now)).length = n) ∧
    (∀ frame : RunFrame,
      (∀ r, Visits frame next (start (.fresh policy) source now) r → Within policy r) ∧
      (toEnd frame next (.fresh policy) source now).1 ≠ .overflowed ∧
      ∀ overflow, toEnd { frame with overflow := overflow } next (.fresh policy) source now =
        toEnd frame next (.fresh policy) source now) ∧
    (∀ (frame : RunFrame) (c : Controller) source now fuel,
      (c.attempts + 1 < UInt32.size ∨ frame.overflow = .stops →
        (trials frame next fuel (start c source now)).length ≤
          max 1 (c.policy.maxRetries.toNat - c.attempts)) ∧
      (budget c ≤ fuel →
        cycles frame next fuel (start c source now) = toEnd frame next c source now)) := by
  have ready : Ready policy (start (.fresh policy) source now) := ready_start policy source now
  refine ⟨?_, fun frame => ⟨fun r visits => ready.visits visits, ?_, fun overflow => ?_⟩,
    fun frame c source now fuel => ⟨fun counts => ?_, fun enough => ?_⟩⟩
  · obtain ⟨n, last⟩ := policy.exists_lastAttempt outcomes
    have pos := last.pos
    obtain ⟨late, ends⟩ := endsAfter_cycles plays last (n - 1)
      (show 0 + (n - 1) + 1 = n by omega) 0 source now fun _ => (Nat.zero_mod _).symm
    refine ⟨n, last, late, fun frame calm enough => ?_⟩
    have le : n ≤ budget (.fresh policy) := by
      rw [budget_eq_max (Controller.Orderly.fresh policy).room]
      exact last.le
    obtain ⟨done, length⟩ := ends frame (start (.fresh policy) source now) calm enough
      ⟨rfl, .fresh policy, rfl, rfl, rfl, rfl⟩ (budget (.fresh policy)) (by omega)
    exact ⟨done, by omega⟩
  · exact cycles_not_overflowed _ ready.orderly
  · exact cycles_overflow overflow _ ready.orderly
  · exact length_trials_le fuel counts
  · exact cycles_congr enough (Nat.le_refl _)

/-- Three failures, the second one with a cool-down, and then a cancel. A later run has two attempts
left. -/
theorem retry_budget_cancelled :
    let policy : RetryPolicy := ⟨6, .ofSeconds 1, .ofSeconds 2, 2, .ofSeconds 5⟩
    let outcomes (k : Nat) : Outcome :=
      .failed (if k = 4 then .intentionalCancel else .transportUnavailable)
    let next : AttemptSource Unit := fun _ attempt now =>
      (⟨[], [], .unopened (.unopened attempt (outcomes attempt) none), now⟩, ())
    let frame (limit : Nat) : RunFrame := .plain "memory" false none limit
    let ended (limit : Nat) := toEnd (frame limit) next (.fresh policy) () .origin
    next.Plays outcomes ∧
      (∃ late, ∀ limit, late ≤ limit → EndsAfter policy outcomes 4 (ended limit)) ∧
      (ended 100000).1 = .finished ∧ (ended 100000).2.moment.tick = 8000 ∧
      (ended 100000).2.controller = ⟨policy, .done, 4, 1⟩ ∧
      (trials (frame 100000) next 9 (start (ended 100000).2.controller () .origin)).length ≤ 2 := by
  intro policy outcomes next frame ended
  have plays : next.Plays outcomes := fun _ attempt _ =>
    ⟨.unopened attempt (outcomes attempt) none, rfl, rfl⟩
  have fourth : policy.LastAttempt outcomes 4 := by
    refine ⟨by decide, by decide, fun k _ lt => ?_, Or.inl rfl⟩
    have ne : k ≠ 4 := by omega
    simp [outcomes, ne, Outcome.isFinal]
  obtain ⟨⟨n, last, late, ends⟩, _, later⟩ := retry_budget policy next outcomes plays () .origin
  obtain rfl := last.unique fourth
  have left : (ended 100000).2.controller = ⟨policy, .done, 4, 1⟩ := by decide +kernel
  refine ⟨plays, ⟨late, fun limit enough => ?_⟩, by decide +kernel, by decide +kernel, left, ?_⟩
  · exact (ends (frame limit) ⟨rfl, rfl⟩ enough).1
  · rw [left]
    exact (later (frame 100000) ⟨policy, .done, 4, 1⟩ () .origin 9).1 (Or.inl (by decide))

/-- A shutdown in the first pause leaves one attempt of the three that the policy admits. A run
whose count is at the end of its range begins again at zero, and makes four attempts although one is
left. -/
theorem budget_missed :
    let policy : RetryPolicy := ⟨3, .ofSeconds 1, .ofSeconds 2, 5, .ofSeconds 5⟩
    let outcomes (_ : Nat) : Outcome := .failed .transportUnavailable
    let next : AttemptSource Unit := fun _ attempt now =>
      (⟨[], [], .unopened (.unopened attempt (outcomes attempt) none), now⟩, ())
    let made (frame : RunFrame) (c : Controller) :=
      (trials frame next (budget c) (start c () .origin)).length
    let full : Controller := ⟨policy, .failed, 4294967295, 0⟩
    next.Plays outcomes ∧ policy.LastAttempt outcomes 3 ∧
      made (.plain "memory" false (some 500) 100000) (.fresh policy) = 1 ∧
      (toEnd (.plain "memory" false (some 500) 100000) next (.fresh policy) ()
        .origin).2.controller =
        ⟨policy, .done, 1, 1⟩ ∧
      max 1 (policy.maxRetries.toNat - full.attempts) = 1 ∧
      made (.plain "memory" false none 100000) full = 4 := by
  intro policy outcomes next made full
  have third : policy.LastAttempt outcomes 3 :=
    ⟨by decide, by decide, fun k _ _ => rfl, Or.inr rfl⟩
  exact ⟨fun _ attempt _ => ⟨.unopened attempt (outcomes attempt) none, rfl, rfl⟩, third,
    by decide +kernel, by decide +kernel, by decide, by decide +kernel⟩

end Run

end DuplexStream
