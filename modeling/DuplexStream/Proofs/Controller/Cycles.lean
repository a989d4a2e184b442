import DuplexStream.Controller.Run

/-!
# One cycle of the controller

A cycle is an attempt with what follows it: a decision, and perhaps a pause and a cool-down.
`Run.Cycle` says everything that a cycle can come to whose attempt can be counted, and what it
leaves in the counters of the run; nothing after this module unfolds `Run.cycle`.

The counters are words. As long as there is room for another attempt they count as numbers do
(`Controller.Orderly`), and a cycle that goes on leaves room.
-/

namespace DuplexStream

/-- The pause that a policy prescribes after an outcome, if there is to be another attempt. -/
def RetryPolicy.pauseAfter (p : RetryPolicy) : Outcome → Option Duration
  | .completed => none
  | .failed .intentionalCancel => none
  | .failed .localTaskCancelled => none
  | .failed .transportUnavailable => some p.transportBackoff
  | .failed .deadlineExceeded => some p.transportBackoff
  | .failed .cancelled => some p.otherBackoff
  | .failed .otherRpcError => some p.otherBackoff
  | .failed .unexpectedError => some p.otherBackoff

/-- The outcomes without a pause are the final ones. -/
theorem RetryPolicy.pauseAfter_eq_none_iff (p : RetryPolicy) (o : Outcome) :
    p.pauseAfter o = none ↔ o.isFinal = true := by
  cases o with
  | completed => simp [pauseAfter, Outcome.isFinal]
  | failed kind => cases kind <;> simp [pauseAfter, Outcome.isFinal]

/-- Nothing shuts the run down. -/
structure RunFrame.Calm (frame : RunFrame) : Prop where
  shutDown : frame.shutDown = false
  shutdownAt : frame.shutdownAt = none

/-- A word below the end of its range counts one more. -/
theorem toNat_raise {w : UInt32} (room : w.toNat + 1 < UInt32.size) :
    (w + 1).toNat = w.toNat + 1 := by
  rw [UInt32.toNat_add]
  exact Nat.mod_eq_of_lt room

/-- A word below the end of its range can be raised. -/
theorem Overflow.accepts {w : UInt32} (overflow : Overflow) (room : w.toNat + 1 < UInt32.size) :
    overflow.refuses w = false := by
  have raised : w + 1 ≠ 0 := by
    intro zero
    have := toNat_raise room
    rw [zero] at this
    exact absurd this (Nat.succ_ne_zero _).symm
  simp [refuses, raised]

/-- The counters of a controller count as numbers do: another attempt can be counted, and no more
failures than attempts are remembered. -/
structure Controller.Orderly (c : Controller) : Prop where
  failures : c.failures ≤ c.attempts
  room : c.attempts + 1 < UInt32.size

namespace Controller.Orderly

variable {c : Controller}

theorem fresh (policy : RetryPolicy) : (Controller.fresh policy).Orderly :=
  ⟨Nat.le_refl 0, show 0 + 1 < UInt32.size by decide⟩

theorem number (h : c.Orderly) : c.number = c.attempts + 1 :=
  toNat_raise h.room

theorem failed (h : c.Orderly) : (c.failureCount + 1).toNat = c.failures + 1 :=
  toNat_raise (Nat.lt_of_le_of_lt (Nat.succ_le_succ h.failures) h.room)

theorem accepts (h : c.Orderly) (overflow : Overflow) : overflow.refuses c.attemptCount = false :=
  overflow.accepts h.room

theorem acceptsFailure (h : c.Orderly) (overflow : Overflow) :
    overflow.refuses c.failureCount = false :=
  overflow.accepts (Nat.lt_of_le_of_lt (Nat.succ_le_succ h.failures) h.room)

end Controller.Orderly

/-- A decision is to stop because nothing has failed, to stop because the attempts are used up, or
to try again. -/
theorem Controller.judge_cases (c : Controller) (o : Outcome) :
    (c.policy.pauseAfter o = none ∧ c.judge o =
      (.stop .done, { c with failureCount := if o = .completed then 0 else c.failureCount })) ∨
    (∃ delay, c.policy.pauseAfter o = some delay ∧ c.policy.maxRetries.toNat ≤ c.attempts ∧
      c.judge o = (.stop .failed, { c with failureCount := c.failureCount + 1 })) ∨
    (∃ delay, c.policy.pauseAfter o = some delay ∧ c.attempts < c.policy.maxRetries.toNat ∧
      c.judge o = (.retry delay, { c with failureCount := c.failureCount + 1 })) := by
  have failing (kind : Failure) (pause : c.policy.pauseAfter (.failed kind) =
        some (Controller.backoff c.policy kind))
      (judge : c.judge (.failed kind) = c.judgeFailure kind) :
      (∃ delay, c.policy.pauseAfter (.failed kind) = some delay ∧
        c.policy.maxRetries.toNat ≤ c.attempts ∧
        c.judge (.failed kind) = (.stop .failed, { c with failureCount := c.failureCount + 1 })) ∨
      (∃ delay, c.policy.pauseAfter (.failed kind) = some delay ∧
        c.attempts < c.policy.maxRetries.toNat ∧
        c.judge (.failed kind) =
          (.retry delay, { c with failureCount := c.failureCount + 1 })) := by
    by_cases used : c.policy.maxRetries.toNat ≤ c.attempts
    · exact Or.inl ⟨_, pause, used, by rw [judge, judgeFailure, if_pos used]⟩
    · exact Or.inr ⟨_, pause, Nat.not_le.mp used, by rw [judge, judgeFailure, if_neg used]⟩
  cases o with
  | completed => exact Or.inl ⟨rfl, rfl⟩
  | failed kind =>
      cases kind with
      | intentionalCancel => exact Or.inl ⟨rfl, rfl⟩
      | localTaskCancelled => exact Or.inl ⟨rfl, rfl⟩
      | cancelled => exact Or.inr (failing .cancelled rfl rfl)
      | transportUnavailable => exact Or.inr (failing .transportUnavailable rfl rfl)
      | deadlineExceeded => exact Or.inr (failing .deadlineExceeded rfl rfl)
      | otherRpcError => exact Or.inr (failing .otherRpcError rfl rfl)
      | unexpectedError => exact Or.inr (failing .unexpectedError rfl rfl)

/-- A controller tries again where the policy prescribes a pause and leaves an attempt. -/
theorem Controller.judge_retry {c c' : Controller} {o : Outcome} {delay : Duration}
    (h : c.judge o = (.retry delay, c')) :
    c.policy.pauseAfter o = some delay ∧ c.attempts < c.policy.maxRetries.toNat ∧
      c'.failureCount = c.failureCount + 1 := by
  rcases c.judge_cases o with ⟨_, he⟩ | ⟨_, _, _, he⟩ | ⟨d, pause, left, he⟩
  · simp [he] at h
  · simp [he] at h
  · rw [he, Prod.mk.injEq, FollowUp.retry.injEq] at h
    exact ⟨h.1 ▸ pause, left, h.2 ▸ rfl⟩

/-- A controller stops where nothing has failed, or where the attempts are used up. -/
theorem Controller.judge_stop {c c' : Controller} {o : Outcome} {final : Phase}
    (h : c.judge o = (.stop final, c')) :
    (c.policy.pauseAfter o = none ∧ final = .done ∧
      c'.failureCount = if o = .completed then 0 else c.failureCount) ∨
    (c.policy.pauseAfter o ≠ none ∧ c.policy.maxRetries.toNat ≤ c.attempts ∧ final = .failed ∧
      c'.failureCount = c.failureCount + 1) := by
  rcases c.judge_cases o with ⟨final, he⟩ | ⟨d, pause, used, he⟩ | ⟨_, _, _, he⟩
  · rw [he, Prod.mk.injEq, FollowUp.stop.injEq] at h
    exact Or.inl ⟨final, h.1.symm, h.2 ▸ rfl⟩
  · rw [he, Prod.mk.injEq, FollowUp.stop.injEq] at h
    exact Or.inr ⟨by simp [pause], used, h.1.symm, h.2 ▸ rfl⟩
  · simp [he] at h

/-- A decision changes only the count of failures. -/
theorem Controller.judge_keeps (c : Controller) (o : Outcome) :
    (c.judge o).2.policy = c.policy ∧ (c.judge o).2.attemptCount = c.attemptCount := by
  rcases c.judge_cases o with ⟨_, he⟩ | ⟨_, _, _, he⟩ | ⟨_, _, _, he⟩ <;> rw [he] <;>
    exact ⟨rfl, rfl⟩

namespace Run

variable {σ : Type}

/-- Two runs that differ at most in the state of the controller and in the log. -/
structure Alike (r r' : Run σ) : Prop where
  policy : r'.controller.policy = r.controller.policy
  attemptCount : r'.controller.attemptCount = r.controller.attemptCount
  failureCount : r'.controller.failureCount = r.controller.failureCount
  source : r'.source = r.source
  moment : r'.moment = r.moment
  total : r'.total = r.total
  last : r'.last = r.last

section Alike

theorem Alike.trans {r r' r'' : Run σ} (h : Alike r r') (h' : Alike r' r'') : Alike r r'' :=
  ⟨h'.policy.trans h.policy, h'.attemptCount.trans h.attemptCount,
    h'.failureCount.trans h.failureCount, h'.source.trans h.source, h'.moment.trans h.moment,
    h'.total.trans h.total, h'.last.trans h.last⟩

theorem alike_note (r : Run σ) (events : List Event) : Alike r (r.note events) :=
  ⟨rfl, rfl, rfl, rfl, rfl, rfl, rfl⟩

theorem alike_moveTo (r : Run σ) (target : Phase) : Alike r (r.moveTo target) :=
  ⟨rfl, rfl, rfl, rfl, rfl, rfl, rfl⟩

theorem alike_conclude (r : Run σ) (final : Phase) : Alike r (r.conclude final) :=
  ⟨rfl, rfl, rfl, rfl, rfl, rfl, rfl⟩

end Alike

/-- What an attempt with a report has left in the counters of a run, so many failures being
remembered at a moment. -/
structure Counted (r : Run σ) (source : σ) (report : Report) (failures : UInt32) (moment : Moment)
    (r' : Run σ) : Prop where
  policy : r'.controller.policy = r.controller.policy
  attemptCount : r'.controller.attemptCount = r.controller.attemptCount + 1
  failureCount : r'.controller.failureCount = failures
  source : r'.source = source
  moment : r'.moment = moment
  total : r'.total = r.total + report.messageCount
  last : r'.last = some report

section Counted

variable {r r' r'' : Run σ} {source : σ} {report : Report} {count : UInt32} {moment : Moment}

theorem Counted.attempts (h : Counted r source report count moment r') :
    r'.controller.attempts = r.controller.number :=
  congrArg UInt32.toNat h.attemptCount

theorem Counted.failures (h : Counted r source report count moment r') :
    r'.controller.failures = count.toNat :=
  congrArg UInt32.toNat h.failureCount

theorem Counted.alike (h : Counted r source report count moment r') (same : Alike r' r'') :
    Counted r source report count moment r'' where
  policy := same.policy.trans h.policy
  attemptCount := same.attemptCount.trans h.attemptCount
  failureCount := same.failureCount.trans h.failureCount
  source := same.source.trans h.source
  moment := same.moment.trans h.moment
  total := same.total.trans h.total
  last := same.last.trans h.last

theorem Counted.at (h : Counted r source report count moment r') (m : Moment) :
    Counted r source report count m { r' with moment := m } :=
  ⟨h.policy, h.attemptCount, h.failureCount, h.source, rfl, h.total, h.last⟩

theorem Counted.forget (h : Counted r source report count moment r') :
    Counted r source report 0 moment r'.forgetFailures :=
  ⟨h.policy, h.attemptCount, rfl, h.source, h.moment, h.total, h.last⟩

end Counted

/-- A pause of a run, which sees a shutdown at the tick of its timer or does not. -/
def pauses (shutdownFirst : Bool) (frame : RunFrame) (m : Moment) (delay : Duration) : Pause :=
  pause shutdownFirst frame.shutDown frame.shutdownAt frame.limit m delay

/-- What the pauses after an attempt come to: none, one, or one and a cool-down, and where the run
stands then. -/
inductive Paused (frame : RunFrame) (p : RetryPolicy) (delay : Duration) (failures : UInt32)
    (m : Moment) : Option RunEnd → UInt32 → Moment → Prop
  | resumed {b : Bool} {m' : Moment} (pause : pauses b frame m delay = .resumed m')
      (few : failures.toNat < p.cooldownThreshold.toNat) :
      Paused frame p delay failures m none failures m'
  | cooled {b b' : Bool} {m' m'' : Moment} (pause : pauses b frame m delay = .resumed m')
      (many : p.cooldownThreshold.toNat ≤ failures.toNat)
      (cooldown : pauses b' frame m' p.cooldown = .resumed m'') :
      Paused frame p delay failures m none 0 m''
  | interrupted {b : Bool} {m' : Moment} (pause : pauses b frame m delay = .interrupted m') :
      Paused frame p delay failures m (some .finished) failures m'
  | interruptedCooling {b b' : Bool} {m' m'' : Moment}
      (pause : pauses b frame m delay = .resumed m')
      (many : p.cooldownThreshold.toNat ≤ failures.toNat)
      (cooldown : pauses b' frame m' p.cooldown = .interrupted m'') :
      Paused frame p delay failures m (some .finished) 0 m''
  | expired {b : Bool} {m' : Moment} (pause : pauses b frame m delay = .unfinished m') :
      Paused frame p delay failures m (some .unfinished) failures m'
  | expiredCooling {b b' : Bool} {m' m'' : Moment} (pause : pauses b frame m delay = .resumed m')
      (many : p.cooldownThreshold.toNat ≤ failures.toNat)
      (cooldown : pauses b' frame m' p.cooldown = .unfinished m'') :
      Paused frame p delay failures m (some .unfinished) failures m''

/-- Without a shutdown there is nothing that a pause could see first. -/
theorem pauses_congr_of_calm {frame : RunFrame} (calm : frame.Calm) (b b' : Bool) (m : Moment)
    (delay : Duration) : pauses b frame m delay = pauses b' frame m delay := by
  simp only [pauses, pause, calm.shutDown, calm.shutdownAt, Moment.reachedAny, Bool.or_self,
    Bool.false_eq_true, if_false]

/-- Without a shutdown the pauses after an attempt come to one thing only. -/
theorem Paused.unique {frame : RunFrame} {p : RetryPolicy} {delay : Duration}
    {failures f₁ f₂ : UInt32} {m m₁ m₂ : Moment} {stop₁ stop₂ : Option RunEnd} (calm : frame.Calm)
    (h₁ : Paused frame p delay failures m stop₁ f₁ m₁)
    (h₂ : Paused frame p delay failures m stop₂ f₂ m₂) : stop₂ = stop₁ ∧ f₂ = f₁ ∧ m₂ = m₁ := by
  have same (b : Bool) (m : Moment) (delay : Duration) :
      pauses b frame m delay = pauses false frame m delay :=
        pauses_congr_of_calm calm b false m delay
  cases h₁ <;> cases h₂ <;> grind

/-- What a run goes on with, or ends with. -/
def going : Option RunEnd → Run σ → Run σ ⊕ RunEnd × Run σ
  | none, r => .inl r
  | some e, r => .inr (e, r)

/-- A run whose next attempt has been made: it is counted, and nothing follows it yet. -/
def tried (r : Run σ) (source : σ) (m : Moment) : Run σ :=
  { r with
    controller := { r.controller with attemptCount := r.controller.attemptCount + 1 }
    source := source
    moment := m }

/-- Everything that one cycle of a run can come to whose attempt can be counted. -/
inductive Cycle (frame : RunFrame) (next : AttemptSource σ) (r : Run σ) :
    Run σ ⊕ RunEnd × Run σ → Prop
  | unserviceable {a : Attempt} {source : σ} {r' : Run σ}
      (made : next r.source r.controller.number r.moment = (a, source))
      (finish : a.finish = .unserviceable) (left : Alike (r.tried source a.ended) r') :
      Cycle frame next r (.inr (.unserviceable, r'))
  | unfinished {a : Attempt} {source : σ} {r' : Run σ}
      (made : next r.source r.controller.number r.moment = (a, source))
      (finish : a.finish = .unfinished) (left : Alike (r.tried source a.ended) r') :
      Cycle frame next r (.inr (.unfinished, r'))
  | overflowed {a : Attempt} {source : σ} {report : Report} {r' : Run σ}
      (made : next r.source r.controller.number r.moment = (a, source))
      (reported : a.report? = some report) (failed : report.outcome.isFinal = false)
      (refuses : frame.overflow.refuses r.controller.failureCount = true)
      (left : Alike (r.tried source a.ended) r') : Cycle frame next r (.inr (.overflowed, r'))
  | stopped {a : Attempt} {source : σ} {report : Report} {c c' : Controller} {final : Phase}
      {r' : Run σ} (made : next r.source r.controller.number r.moment = (a, source))
      (reported : a.report? = some report)
      (judge : c.judge report.outcome = (.stop final, c'))
      (policy : c.policy = r.controller.policy)
      (attempts : c.attempts = r.controller.number)
      (failures : c.failureCount = r.controller.failureCount)
      (counted : Counted r source report c'.failureCount a.ended r')
      (state : r'.controller.state = final) : Cycle frame next r (.inr (.finished, r'))
  | retried {a : Attempt} {source : σ} {report : Report} {c c' : Controller} {delay : Duration}
      {stop : Option RunEnd} {failures' : UInt32} {m : Moment} {r' : Run σ}
      (made : next r.source r.controller.number r.moment = (a, source))
      (reported : a.report? = some report)
      (judge : c.judge report.outcome = (.retry delay, c'))
      (policy : c.policy = r.controller.policy)
      (attempts : c.attempts = r.controller.number)
      (failures : c.failureCount = r.controller.failureCount)
      (paused : Paused frame r.controller.policy delay c'.failureCount a.ended stop failures' m)
      (counted : Counted r source report failures' m r')
      (state : stop = some .finished → r'.controller.state = .done) :
      Cycle frame next r (going stop r')

section Pauses

variable {frame : RunFrame} {r r' : Run σ} {source : σ} {report : Report} {failures : UInt32}
  {m : Moment} {delay : Duration}

/-- The three ways in which a pause can end. -/
theorem wait_cases (frame : RunFrame) (delay : Duration) (r : Run σ) :
    (∃ m, pauses (frame.shutdownFirst r.log) frame r.moment delay = .resumed m ∧
      r.wait frame delay = .inl { r with moment := m }) ∨
    (∃ m, pauses (frame.shutdownFirst r.log) frame r.moment delay = .interrupted m ∧
      r.wait frame delay = .inr (.finished, { r with moment := m }.note [.retriesAbandoned])) ∨
    (∃ m, pauses (frame.shutdownFirst r.log) frame r.moment delay = .unfinished m ∧
      r.wait frame delay = .inr (.unfinished, { r with moment := m })) := by
  cases h : pauses (frame.shutdownFirst r.log) frame r.moment delay with
  | resumed m => exact Or.inl ⟨m, rfl, by rw [pauses] at h; simp [wait, h]⟩
  | interrupted m => exact Or.inr (Or.inl ⟨m, rfl, by rw [pauses] at h; simp [wait, h]⟩)
  | unfinished m => exact Or.inr (Or.inr ⟨m, rfl, by rw [pauses] at h; simp [wait, h]⟩)

/-- A run after its pause: the cool-down follows if there are many failures. -/
theorem paused_coolDown {b : Bool} {m₀ : Moment}
    (counted : Counted r source report failures m r')
    (pause : pauses b frame m₀ delay = .resumed m) :
    ∃ stop failures' m' r'', r'.coolDown frame = going stop r'' ∧
      Paused frame r.controller.policy delay failures m₀ stop failures' m' ∧
      Counted r source report failures' m' r'' ∧
      (stop = some .finished → r''.controller.state = .done) := by
  have hfailures := counted.failures
  have hpolicy := counted.policy
  by_cases many : r.controller.policy.cooldownThreshold.toNat ≤ failures.toNat
  · have hneeds : r'.controller.needsCooldown = true := by
      simp only [Controller.needsCooldown, hpolicy, hfailures, Nat.ble_eq]
      exact many
    have cooling : Counted r source report failures m
        ((r'.note [.coolingDown r'.controller.failures r'.controller.policy.cooldown]).moveTo
          .cooldown) :=
      counted.alike ((alike_note r' _).trans (alike_moveTo _ _))
    have hwait := wait_cases frame r'.controller.policy.cooldown
      ((r'.note [.coolingDown r'.controller.failures r'.controller.policy.cooldown]).moveTo
        .cooldown)
    rw [cooling.moment] at hwait
    rw [coolDown, if_pos hneeds]
    rcases hwait with ⟨m', cooldown, he⟩ | ⟨m', cooldown, he⟩ | ⟨m', cooldown, he⟩ <;>
      rw [hpolicy] at cooldown <;> simp only [he]
    · exact ⟨none, 0, m', _, rfl, .cooled pause many cooldown, (cooling.at m').forget, nofun⟩
    · refine ⟨some .finished, 0, m', _, rfl, .interruptedCooling pause many cooldown, ?_,
        fun _ => rfl⟩
      exact ((cooling.at m').alike (alike_note _ _)).forget.alike (alike_conclude _ _)
    · exact ⟨some .unfinished, failures, m', _, rfl, .expiredCooling pause many cooldown,
        cooling.at m', nofun⟩
  · have hneeds : ¬ r'.controller.needsCooldown = true := by
      simp only [Controller.needsCooldown, hpolicy, hfailures, Nat.ble_eq]
      exact many
    refine ⟨none, failures, m, r', ?_, .resumed pause (Nat.not_le.mp many), counted, nofun⟩
    rw [coolDown, if_neg hneeds]
    rfl

/-- A run after a failed attempt. -/
theorem paused_backOff (frame : RunFrame) (delay : Duration)
    (counted : Counted r source report failures m r') :
    ∃ stop failures' m' r'', r'.backOff frame delay = going stop r'' ∧
      Paused frame r.controller.policy delay failures m stop failures' m' ∧
      Counted r source report failures' m' r'' ∧
      (stop = some .finished → r''.controller.state = .done) := by
  have paused : Counted r source report failures m
      ((r'.note [.retrying r'.controller.attempts r'.controller.policy.maxRetries r'.total
        delay]).moveTo .backoff) :=
    counted.alike ((alike_note r' _).trans (alike_moveTo _ _))
  have hwait := wait_cases frame delay ((r'.note [.retrying r'.controller.attempts
    r'.controller.policy.maxRetries r'.total delay]).moveTo .backoff)
  rw [paused.moment] at hwait
  rw [backOff]
  rcases hwait with ⟨m', pause, he⟩ | ⟨m', pause, he⟩ | ⟨m', pause, he⟩ <;> simp only [he]
  · exact paused_coolDown (paused.at m') pause
  · refine ⟨some .finished, failures, m', _, rfl, .interrupted pause, ?_, fun _ => rfl⟩
    exact ((paused.at m').alike (alike_note _ _)).alike (alike_conclude _ _)
  · exact ⟨some .unfinished, failures, m', _, rfl, .expired pause, paused.at m', nofun⟩

end Pauses

/-- An attempt changes nothing else than the source, the moment, and the count of attempts. -/
theorem makeAttempt_cases (frame : RunFrame) (next : AttemptSource σ) (r : Run σ) {a : Attempt}
    {source : σ} (made : next r.source r.controller.number r.moment = (a, source)) :
    ∃ r', (r.beginAttempt frame).makeAttempt next = (a, r') ∧
      Alike (r.tried source a.ended) r' := by
  have hmade : next (r.beginAttempt frame).source (r.beginAttempt frame).controller.attempts
      (r.beginAttempt frame).moment = (a, source) := made
  simp only [makeAttempt, hmade]
  split
  · exact ⟨_, rfl, ⟨rfl, rfl, rfl, rfl, rfl, rfl, rfl⟩⟩
  · exact ⟨_, rfl, ⟨rfl, rfl, rfl, rfl, rfl, rfl, rfl⟩⟩

theorem cycle_of_report {frame : RunFrame} {next : AttemptSource σ} {r r' : Run σ} {a : Attempt}
    {source : σ} {report : Report}
    (made : next r.source r.controller.number r.moment = (a, source))
    (reported : a.report? = some report) (left : Alike (r.tried source a.ended) r') :
    Cycle frame next r (r'.follow frame report) := by
  have attempts : r'.controller.attempts = r.controller.number :=
    congrArg UInt32.toNat left.attemptCount
  have failures : r'.controller.failureCount = r.controller.failureCount := left.failureCount
  cases overflown : r'.controller.overflows frame.overflow report.outcome with
  | true =>
      obtain ⟨failed, refuses⟩ : report.outcome.isFinal = false ∧
          frame.overflow.refuses r.controller.failureCount = true := by
        rw [← failures]
        simpa [Controller.overflows] using overflown
      rw [follow, if_pos overflown]
      exact .overflowed made reported failed refuses left
  | false =>
      rw [follow, if_neg (Bool.not_eq_true _ ▸ overflown)]
      cases hj : r'.controller.judge report.outcome with
      | mk decision c' =>
          have kept := r'.controller.judge_keeps report.outcome
          rw [hj] at kept
          have counted (events : List Event) : Counted r source report c'.failureCount a.ended
              ({ r'.record report with controller := c' }.note events) :=
            ⟨kept.1.trans left.policy, kept.2.trans left.attemptCount, rfl, left.source,
              left.moment, congrArg (· + report.messageCount) left.total, rfl⟩
          have hjudge : (r'.record report).controller.judge report.outcome = (decision, c') := hj
          cases decision with
          | stop final =>
              simp only [hjudge]
              exact .stopped made reported hj left.policy attempts failures
                ((counted _).alike (alike_conclude _ _)) rfl
          | retry delay =>
              obtain ⟨stop, failures', m, r'', he, paused, counted', state⟩ := paused_backOff frame
                delay (counted ((r'.record report).controller.judgeEvents report.outcome))
              simp only [hjudge, he]
              exact .retried made reported hj left.policy attempts failures paused counted' state

/-- An attempt that cannot be counted is the end of the run. -/
theorem cycle_of_refused {frame : RunFrame} {r : Run σ} (next : AttemptSource σ)
    (refused : r.refused frame = true) :
    r.cycle frame next = .inr (.overflowed, r.moveTo .connecting) :=
  if_pos refused

/-- Every cycle whose attempt can be counted is one of these. -/
theorem cycle_cycle {frame : RunFrame} {r : Run σ} (next : AttemptSource σ)
    (accepted : r.refused frame = false) : Cycle frame next r (r.cycle frame next) := by
  cases made : next r.source r.controller.number r.moment with
  | mk a source =>
      obtain ⟨r', hmade, left⟩ := makeAttempt_cases frame next r made
      cases hf : a.finish with
      | unserviceable =>
          have he : r.cycle frame next = .inr (.unserviceable, r') := by
            simp only [cycle, accepted, Bool.false_eq_true, if_false, hmade, hf]
          rw [he]
          exact .unserviceable made hf left
      | unfinished =>
          have hr : a.report? = none := by simp [Attempt.report?, hf]
          have he : r.cycle frame next = .inr (.unfinished, r') := by
            simp only [cycle, accepted, Bool.false_eq_true, if_false, hmade, hf, hr]
          rw [he]
          exact .unfinished made hf left
      | unopened report | streamed report =>
          have hr : a.report? = some report := by simp [Attempt.report?, hf]
          have he : r.cycle frame next = r'.follow frame report := by
            simp only [cycle, accepted, Bool.false_eq_true, if_false, hmade, hf, hr]
          rw [he]
          exact cycle_of_report made hr left

/-- The run that a cycle leaves, whether it goes on or not. -/
def afterCycle : Run σ ⊕ RunEnd × Run σ → Run σ
  | .inl r => r
  | .inr (_, r) => r

@[simp]
theorem afterCycle_going (stop : Option RunEnd) (r : Run σ) : afterCycle (going stop r) = r := by
  cases stop <;> rfl

/-- However such a cycle ends, one attempt has been made and counted. -/
theorem Cycle.counts {frame : RunFrame} {next : AttemptSource σ} {r : Run σ}
    {x : Run σ ⊕ RunEnd × Run σ} (cycle : Cycle frame next r x) :
    (afterCycle x).controller.policy = r.controller.policy ∧
      (afterCycle x).controller.attemptCount = r.controller.attemptCount + 1 ∧
      (afterCycle x).source = (next r.source r.controller.number r.moment).2 := by
  cases cycle with
  | unserviceable made _ left =>
      exact ⟨left.policy, left.attemptCount, by rw [made]; exact left.source⟩
  | unfinished made _ left =>
      exact ⟨left.policy, left.attemptCount, by rw [made]; exact left.source⟩
  | overflowed made _ _ _ left =>
      exact ⟨left.policy, left.attemptCount, by rw [made]; exact left.source⟩
  | stopped made _ _ _ _ _ counted =>
      exact ⟨counted.policy, counted.attemptCount, by rw [made]; exact counted.source⟩
  | retried made _ _ _ _ _ _ counted =>
      rw [afterCycle_going, made]
      exact ⟨counted.policy, counted.attemptCount, counted.source⟩

/-- What a cycle that goes on leaves: attempts, and one failure more or none at all. -/
structure Leaves (r r' : Run σ) : Prop where
  policy : r'.controller.policy = r.controller.policy
  attempts : r'.controller.attempts = r.controller.number
  number : r'.controller.number = r.controller.number + 1
  left : r.controller.number < r.controller.policy.maxRetries.toNat
  failures : r'.controller.failureCount = 0 ∨
    (r'.controller.failureCount = r.controller.failureCount + 1 ∧
      (r.controller.failureCount + 1).toNat < r.controller.policy.cooldownThreshold.toNat)

theorem Cycle.leaves {frame : RunFrame} {next : AttemptSource σ} {r r' : Run σ}
    (cycle : Cycle frame next r (.inl r')) : Leaves r r' := by
  generalize hx : Sum.inl r' = x at cycle
  cases cycle with
  | unserviceable => simp at hx
  | unfinished => simp at hx
  | overflowed => simp at hx
  | stopped => simp at hx
  | @retried _ _ _ c c' _ stop _ _ r'' _ _ judge policy attempts failures paused counted =>
      obtain ⟨_, left, more⟩ := Controller.judge_retry judge
      rw [policy, attempts] at left
      rw [more, failures] at paused
      cases stop with
      | some e => simp [going] at hx
      | none =>
          obtain rfl := Sum.inl.inj hx
          have room := Nat.lt_of_le_of_lt (Nat.succ_le_of_lt left)
            r.controller.policy.maxRetries.toNat_lt_size
          refine ⟨counted.policy, counted.attempts, ?_, left, ?_⟩
          · rw [Controller.number, counted.attemptCount]
            exact toNat_raise room
          · rw [counted.failureCount]
            cases paused with
            | resumed _ few => exact Or.inr ⟨rfl, few⟩
            | cooled => exact Or.inl rfl

/-- A cycle goes on only if its attempt could be counted. -/
theorem accepted_of_goes {frame : RunFrame} {next : AttemptSource σ} {r r' : Run σ}
    (goes : r.cycle frame next = .inl r') : r.refused frame = false := by
  rw [← Bool.not_eq_true]
  intro refused
  simp [cycle_of_refused next refused] at goes

theorem leaves_of_goes {frame : RunFrame} {next : AttemptSource σ} {r r' : Run σ}
    (goes : r.cycle frame next = .inl r') : Leaves r r' := by
  have cycle := cycle_cycle next (accepted_of_goes goes)
  rw [goes] at cycle
  exact cycle.leaves

/-- A cycle that goes on leaves room for another attempt. -/
theorem Leaves.room {r r' : Run σ} (h : Leaves r r') :
    r'.controller.attempts + 1 < UInt32.size := by
  rw [h.attempts]
  exact Nat.lt_of_le_of_lt (Nat.succ_le_of_lt h.left)
    r.controller.policy.maxRetries.toNat_lt_size

theorem Leaves.orderly {r r' : Run σ} (h : Leaves r r') (orderly : r.controller.Orderly) :
    r'.controller.Orderly := by
  refine ⟨?_, h.room⟩
  rw [h.attempts, orderly.number]
  rcases h.failures with none | ⟨more, _⟩
  · rw [Controller.failures, none]
    exact Nat.zero_le _
  · rw [Controller.failures, more, orderly.failed]
    exact Nat.succ_le_succ orderly.failures

/-- Nothing overflows in a cycle of an orderly run. -/
theorem Cycle.not_overflowed {frame : RunFrame} {next : AttemptSource σ} {r r' : Run σ}
    (cycle : Cycle frame next r (.inr (.overflowed, r'))) (orderly : r.controller.Orderly) :
    False := by
  generalize hx : Sum.inr (RunEnd.overflowed, r') = x at cycle
  cases cycle with
  | unserviceable => simp at hx
  | unfinished => simp at hx
  | overflowed _ _ _ refuses =>
      exact absurd ((orderly.acceptsFailure frame.overflow).symm.trans refuses) Bool.false_ne_true
  | stopped => simp at hx
  | @retried _ _ _ _ _ _ stop _ _ _ _ _ _ _ _ _ paused =>
      cases paused <;> simp [going] at hx

section Reports

variable (frame : RunFrame) {next : AttemptSource σ} {r : Run σ} {a : Attempt} {source : σ}
  {report : Report}

/-- Another attempt of an orderly controller can be counted. -/
theorem accepted_of_orderly (orderly : r.controller.Orderly) : r.refused frame = false :=
  orderly.accepts frame.overflow

/-- An attempt without a report is the last one. -/
theorem cycle_of_unreported (accepted : r.refused frame = false)
    (made : next r.source r.controller.number r.moment = (a, source))
    (unreported : a.report? = none) :
    ∃ e r', r.cycle frame next = .inr (e, r') ∧ e ≠ .finished ∧ r'.moment = a.ended := by
  have cycle := cycle_cycle next accepted
  generalize r.cycle frame next = x at cycle ⊢
  cases cycle with
  | unserviceable made' _ left =>
      rw [made, Prod.mk.injEq] at made'
      exact ⟨_, _, rfl, nofun, made'.1 ▸ left.moment⟩
  | unfinished made' _ left =>
      rw [made, Prod.mk.injEq] at made'
      exact ⟨_, _, rfl, nofun, made'.1 ▸ left.moment⟩
  | overflowed made' reported =>
      rw [made, Prod.mk.injEq] at made'
      simp [← made'.1, unreported] at reported
  | stopped made' reported =>
      rw [made, Prod.mk.injEq] at made'
      simp [← made'.1, unreported] at reported
  | retried made' reported =>
      rw [made, Prod.mk.injEq] at made'
      simp [← made'.1, unreported] at reported

/-- After an attempt with a report the failures cannot be counted, or the run is over with an
outcome that is no failure, or with the last attempt that the policy leaves, or the pauses after
the failure follow. -/
theorem Cycle.of_reported {x : Run σ ⊕ RunEnd × Run σ} (cycle : Cycle frame next r x)
    (made : next r.source r.controller.number r.moment = (a, source))
    (reported : a.report? = some report) :
    (report.outcome.isFinal = false ∧
      frame.overflow.refuses r.controller.failureCount = true) ∨
    (r.controller.policy.pauseAfter report.outcome = none ∧
      ∃ r', x = .inr (.finished, r') ∧ r'.controller.state = .done ∧
        Counted r source report
          (if report.outcome = .completed then 0 else r.controller.failureCount) a.ended r') ∨
    (r.controller.policy.pauseAfter report.outcome ≠ none ∧
      r.controller.policy.maxRetries.toNat ≤ r.controller.number ∧
      ∃ r', x = .inr (.finished, r') ∧ r'.controller.state = .failed ∧
        Counted r source report (r.controller.failureCount + 1) a.ended r') ∨
    (∃ delay, r.controller.policy.pauseAfter report.outcome = some delay ∧
      r.controller.number < r.controller.policy.maxRetries.toNat ∧
      ∃ stop failures m r', x = going stop r' ∧
        Paused frame r.controller.policy delay (r.controller.failureCount + 1) a.ended stop
          failures m ∧
        Counted r source report failures m r' ∧
        (stop = some .finished → r'.controller.state = .done)) := by
  cases cycle with
  | unserviceable made' finish =>
      rw [made, Prod.mk.injEq] at made'
      simp [Attempt.report?, made'.1, finish] at reported
  | unfinished made' finish =>
      rw [made, Prod.mk.injEq] at made'
      simp [Attempt.report?, made'.1, finish] at reported
  | overflowed made' reported' failed refuses =>
      rw [made, Prod.mk.injEq] at made'
      obtain ⟨rfl, rfl⟩ := made'
      obtain rfl := Option.some.inj (reported.symm.trans reported')
      exact Or.inl ⟨failed, refuses⟩
  | stopped made' reported' judge policy attempts failures counted state =>
      rw [made, Prod.mk.injEq] at made'
      obtain ⟨rfl, rfl⟩ := made'
      obtain rfl := Option.some.inj (reported.symm.trans reported')
      rcases Controller.judge_stop judge with
        ⟨final, rfl, remembered⟩ | ⟨failed, used, rfl, remembered⟩
      · rw [failures] at remembered
        exact Or.inr (Or.inl ⟨policy ▸ final, _, rfl, state, remembered ▸ counted⟩)
      · rw [failures] at remembered
        rw [policy, attempts] at used
        exact Or.inr (Or.inr (Or.inl
          ⟨policy ▸ failed, used, _, rfl, state, remembered ▸ counted⟩))
  | retried made' reported' judge policy attempts failures paused counted state =>
      rw [made, Prod.mk.injEq] at made'
      obtain ⟨rfl, rfl⟩ := made'
      obtain rfl := Option.some.inj (reported.symm.trans reported')
      obtain ⟨pause, left, remembered⟩ := Controller.judge_retry judge
      rw [policy, attempts] at left
      rw [failures] at remembered
      exact Or.inr (Or.inr (Or.inr ⟨_, policy ▸ pause, left, _, _, _, _, rfl,
        remembered ▸ paused, counted, state⟩))

/-- An outcome that is no failure ends the run. -/
theorem cycle_of_final (accepted : r.refused frame = false)
    (made : next r.source r.controller.number r.moment = (a, source))
    (reported : a.report? = some report)
    (final : r.controller.policy.pauseAfter report.outcome = none) :
    ∃ r', r.cycle frame next = .inr (.finished, r') ∧ r'.controller.state = .done ∧
      Counted r source report
        (if report.outcome = .completed then 0 else r.controller.failureCount) a.ended r' := by
  rcases (cycle_cycle next accepted).of_reported frame made reported with
    ⟨failed, _⟩ | ⟨_, ends⟩ | ⟨failed, _⟩ | ⟨delay, failed, _⟩
  · rw [RetryPolicy.pauseAfter_eq_none_iff, failed] at final
    exact absurd final Bool.false_ne_true
  · exact ends
  · exact absurd final failed
  · simp [final] at failed

/-- A failure ends the run where the attempts are used up, else its pauses follow. -/
theorem cycle_of_failed {delay : Duration} (orderly : r.controller.Orderly)
    (made : next r.source r.controller.number r.moment = (a, source))
    (reported : a.report? = some report)
    (failed : r.controller.policy.pauseAfter report.outcome = some delay) :
    (r.controller.policy.maxRetries.toNat ≤ r.controller.number ∧
      ∃ r', r.cycle frame next = .inr (.finished, r') ∧ r'.controller.state = .failed ∧
        Counted r source report (r.controller.failureCount + 1) a.ended r') ∨
    (r.controller.number < r.controller.policy.maxRetries.toNat ∧
      ∃ stop failures m r', r.cycle frame next = going stop r' ∧
        Paused frame r.controller.policy delay (r.controller.failureCount + 1) a.ended stop
          failures m ∧
        Counted r source report failures m r' ∧
        (stop = some .finished → r'.controller.state = .done)) := by
  have cycle := cycle_cycle next (accepted_of_orderly frame orderly)
  rcases cycle.of_reported frame made reported with
    ⟨_, refuses⟩ | ⟨final, _⟩ | ⟨_, used, ends⟩ | ⟨_, pause, left, goes⟩
  · rw [orderly.acceptsFailure frame.overflow] at refuses
    exact absurd refuses Bool.false_ne_true
  · simp [final] at failed
  · exact Or.inl ⟨used, ends⟩
  · obtain rfl := Option.some.inj (pause.symm.trans failed)
    exact Or.inr ⟨left, goes⟩

end Reports

end Run

end DuplexStream
