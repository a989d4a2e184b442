import DuplexStream.Proofs.Controller.Timeline
import DuplexStream.Proofs.Session.Interruption

/-!
# A shutdown in the middle of a run

Two runs on the same scripts, one of them with a shutdown planned for a tick, make the same attempts
until the turn of the surroundings at that tick. There the one is cut, be it streaming or pausing
(`Run.CutShort`), and the other one goes on.
-/

namespace DuplexStream

/-- The surroundings with a shutdown planned for a tick. -/
def Surroundings.shutAt (around : Surroundings) (tick : Nat) : Surroundings :=
  { around with shutdownAt := some tick }

/-- The frame of a run with a shutdown planned for a tick. -/
def RunFrame.shutAt (frame : RunFrame) (tick : Nat) : RunFrame :=
  { frame with shutdownAt := some tick }

/-- No request comes from outside. -/
structure Surroundings.Calm (around : Surroundings) : Prop where
  cancelAt : around.cancelAt = none
  shutDown : around.shutDown = false
  shutdownAt : around.shutdownAt = none

variable {plan : SessionPlan} {around : Surroundings} {limit tick : Nat}

theorem Surroundings.Calm.running (calm : around.Calm) (now : Moment) :
    around.hasShutDown now = false := by
  simp [hasShutDown, calm.shutDown, calm.shutdownAt, Moment.reachedAny]

theorem Surroundings.Calm.running_shutAt (calm : around.Calm) {now : Moment}
    (early : now.reached tick = false) : (around.shutAt tick).hasShutDown now = false := by
  simp [hasShutDown, shutAt, calm.shutDown, Moment.reachedAny, early]

section Attempts

/-- Two transports that have been called at the same ticks and have the same scripts left. -/
structure ScriptedTransport.SameCalls {σ : Type} (t t' : ScriptedTransport σ) : Prop where
  scripts : t'.scripts = t.scripts
  openedAt : t'.openedAt = t.openedAt

theorem ScriptedTransport.SameCalls.call {σ : Type} {t t' : ScriptedTransport σ}
    (h : SameCalls t t') (now : Nat) :
    (t'.call now).1 = (t.call now).1 ∧ SameCalls (t.call now).2 (t'.call now).2 := by
  cases hs : t.scripts with
  | nil =>
      have hs' := h.scripts.trans hs
      simp only [ScriptedTransport.call, hs, hs']
      exact ⟨trivial, rfl, congrArg (· ++ [now]) h.openedAt⟩
  | cons script rest =>
      have hs' := h.scripts.trans hs
      cases script <;> simp only [ScriptedTransport.call, hs, hs'] <;>
        exact ⟨trivial, rfl, congrArg (· ++ [now]) h.openedAt⟩

/-- An attempt beside the one with a shutdown: they are the same, or one of them is cut. -/
inductive Attempt.Beside (tick : Nat) (now : Moment) (a a' : Attempt) : Prop
  | same (same : a' = a) (early : a.ended.reached tick = false)
  | cut {report : Report} (late : a.ended.reached tick = true) (ended : a'.ended = ⟨tick, true⟩)
      (finish : a'.finish = .streamed report)
      (outcome : report.outcome = .failed .localTaskCancelled)
      (elapsed : report.elapsed = tick - now.tick) : Beside tick now a a'

theorem Session.start_shutAt (calm : around.Calm) (attempt : Nat) (stream : StreamScript)
    {opened : Moment} (early : opened.reached tick = false) :
    Session.start plan attempt stream (around.shutAt tick) opened =
      (Session.start plan attempt stream around opened).shutAt tick := by
  simp only [Session.start, calm.running, calm.running_shutAt early]
  rfl

/-- The sessions of two attempts, up to the limit of the clock. -/
theorem Attempt.stream_beside (calm : around.Calm) (attempt : Nat) (stream : StreamScript)
    (opening : List Event) {opened : Moment} (early : opened.reached tick = false) :
    Beside tick opened
      (Attempt.stream opening limit (Session.start plan attempt stream around opened)).1
      (Attempt.stream opening limit
        (Session.start plan attempt stream (around.shutAt tick) opened)).1 := by
  let s := Session.start plan attempt stream around opened
  have attended : s.Attended := Session.attended_start plan attempt stream around opened
  have undisturbed : s.Undisturbed := ⟨calm.cancelAt, calm.shutdownAt, fun _ => rfl⟩
  rw [Session.start_shutAt calm attempt stream early]
  rcases Session.run_shutAt attended (Nat.le_max_left 1 plan.writePoll.ticks) undisturbed
    early limit
    with ⟨early', side⟩ | ⟨late, moment, r, report, outcome, elapsed, _⟩
  · apply Beside.same
    · simp only [Attempt.stream]
      rw [side]
      rfl
    · exact early'
  · apply Beside.cut
    · exact late
    · exact moment
    · simp only [Attempt.stream]
      rw [report]
    · exact outcome
    · exact elapsed

/-- One attempt of each run. -/
theorem Attempt.run_beside (plan : SessionPlan) (limit : Nat) (calm : around.Calm)
    {t t' : ScriptedTransport Session}
    (same : t.SameCalls t') (attempt : Nat) {now : Moment} (early : now.reached tick = false) :
    Beside tick now (AttemptSource.scripted plan around limit t attempt now).1
      (AttemptSource.scripted plan (around.shutAt tick) limit t' attempt now).1 ∧
    (AttemptSource.scripted plan around limit t attempt now).2.SameCalls
      (AttemptSource.scripted plan (around.shutAt tick) limit t' attempt now).2 := by
  have running := calm.running now
  have running' := calm.running_shutAt early
  cases ha : Queue.admits plan.channelBuffer with
  | false =>
      simp only [AttemptSource.scripted, Attempt.run, openOn, running, running', ha]
      exact ⟨.same rfl early, same⟩
  | true =>
      obtain ⟨answer, calls⟩ := same.call now.tick
      cases hc : t.call now.tick with
      | mk answer₁ u =>
          cases hc' : t'.call now.tick with
          | mk answer₂ u' =>
              rw [hc, hc'] at answer calls
              obtain rfl : answer₂ = answer₁ := answer
              cases answer₂ with
              | error e =>
                  simp only [AttemptSource.scripted, Attempt.run, openOn, running, running', ha, hc,
                    hc']
                  exact ⟨.same rfl early, calls⟩
              | ok stream =>
                  simp only [AttemptSource.scripted, Attempt.run, openOn, running, running', ha, hc,
                    hc']
                  exact ⟨Attempt.stream_beside calm attempt stream _ early, calls.scripts,
                    calls.openedAt⟩

end Attempts

namespace Run

variable {σ : Type} {frame : RunFrame} {p : RetryPolicy}

section Pauses

variable {m m₁ m₂ : Moment} {delay : Duration} {failures f₁ f₂ : UInt32}
  {stop₁ stop₂ : Option RunEnd}

/-- What a pause with a shutdown at a tick comes to, beside the same pause without one, which no
limit ends: both go on, or the shutdown cuts the one, at the latest when the timer of both fires. -/
def CutsOr (tick wake : Nat) (undisturbed : Pause) : Pause → Prop
  | .resumed m' => undisturbed = .resumed m' ∧ m'.reached tick = false
  | .interrupted m' => m' = ⟨tick, true⟩ ∧ tick ≤ wake
  | .unfinished _ => False

/-- A pause of each run. -/
theorem pauses_beside (calm : frame.Calm) (early : m.reached tick = false) {b : Bool} {o : Pause}
    (h : pauses b (frame.shutAt tick) m delay = o) :
    (∃ m', pauses b frame m delay = .unfinished m' ∧ m'.reached tick = false) ∨
      CutsOr tick (m.tick + delay.ticks) (pauses b frame m delay) o := by
  subst h
  have before := (Moment.not_reached_iff m tick).mp early
  simp only [pauses, pause, RunFrame.shutAt, calm.shutDown, calm.shutdownAt, Moment.reachedAny,
    early, Bool.or_self, Bool.false_eq_true, if_false]
  by_cases cut : (tick < m.tick + delay.ticks ∨ (tick = m.tick + delay.ticks ∧ b = true)) ∧
      tick < frame.limit
  · rw [if_pos cut]
    exact Or.inr ⟨rfl, by omega⟩
  · rw [if_neg cut]
    by_cases zero : delay.ticks = 0
    · simp only [zero, if_true]
      exact Or.inr ⟨rfl, early⟩
    · simp only [zero, if_false]
      by_cases onTime : m.tick + delay.ticks ≤ frame.limit
      · simp only [onTime, if_true]
        refine Or.inr ⟨rfl, ?_⟩
        rw [Moment.not_reached_iff]
        simp only [and_true]
        omega
      · simp only [onTime, if_false]
        refine Or.inl ⟨_, rfl, ?_⟩
        rw [Moment.not_reached_iff]
        simp only [and_true]
        omega

/-- Pauses take their time. -/
theorem tick_le_of_paused (calm : frame.Calm) (h : Paused frame p delay failures m none f₁ m₁) :
    m.tick + delay.ticks ≤ m₁.tick := by
  cases h with
  | resumed pause => exact Nat.le_of_eq (resumed_of_calm calm pause).symm
  | cooled pause many cooldown =>
      rw [resumed_of_calm calm cooldown, resumed_of_calm calm pause]
      exact Nat.le_add_right _ _

/-- The pauses of each run after the same attempt. -/
theorem Paused.beside (calm : frame.Calm) (early : m.reached tick = false)
    (h₁ : Paused frame p delay failures m stop₁ f₁ m₁)
    (h₂ : Paused (frame.shutAt tick) p delay failures m stop₂ f₂ m₂) :
    (stop₁ = none ∧ stop₂ = none ∧ f₂ = f₁ ∧ m₂ = m₁ ∧ m₁.reached tick = false) ∨
    (stop₁ = some .unfinished ∧ m₁.reached tick = false) ∨
    (stop₂ = some .finished ∧ m₂ = ⟨tick, true⟩ ∧ (stop₁ = none → tick ≤ m₁.tick) ∧
      (m.tick + delay.ticks < tick → f₂ = 0)) := by
  -- where the clock ends a pause of the one run, the other one does not matter
  have expired {b : Bool} {m' : Moment} (pause : pauses b frame m delay = .unfinished m')
      (early' : m'.reached tick = false) : stop₁ = some .unfinished ∧ m₁.reached tick = false := by
    obtain ⟨rfl, _, rfl⟩ := Paused.unique calm (.expired pause) h₁
    exact ⟨rfl, early'⟩
  have expiredCooling {b b' : Bool} {m' m'' : Moment} (pause : pauses b frame m delay = .resumed m')
      (many : p.cooldownThreshold.toNat ≤ failures.toNat)
      (cooldown : pauses b' frame m' p.cooldown = .unfinished m'')
      (early'' : m''.reached tick = false) :
      stop₁ = some .unfinished ∧ m₁.reached tick = false := by
    obtain ⟨rfl, _, rfl⟩ := Paused.unique calm (.expiredCooling pause many cooldown) h₁
    exact ⟨rfl, early''⟩
  cases h₂ with
  | resumed pause' few =>
      rcases pauses_beside calm early pause' with ⟨_, pause, early'⟩ | ⟨pause, early'⟩
      · exact Or.inr (Or.inl (expired pause early'))
      · obtain ⟨rfl, rfl, rfl⟩ := Paused.unique calm (.resumed pause few) h₁
        exact Or.inl ⟨rfl, rfl, rfl, rfl, early'⟩
  | interrupted pause' =>
      rcases pauses_beside calm early pause' with ⟨_, pause, early'⟩ | ⟨rfl, late⟩
      · exact Or.inr (Or.inl (expired pause early'))
      · refine Or.inr (Or.inr ⟨rfl, rfl, ?_, fun passed => absurd late (Nat.not_le.mpr passed)⟩)
        rintro rfl
        exact Nat.le_trans late (tick_le_of_paused calm h₁)
  | expired pause' =>
      rcases pauses_beside calm early pause' with ⟨_, pause, early'⟩ | never
      · exact Or.inr (Or.inl (expired pause early'))
      · exact never.elim
  | cooled pause' many cooldown' =>
      rcases pauses_beside calm early pause' with ⟨_, pause, early'⟩ | ⟨pause, early'⟩
      · exact Or.inr (Or.inl (expired pause early'))
      rcases pauses_beside calm early' cooldown' with ⟨_, cooldown, early''⟩ | ⟨cooldown, early''⟩
      · exact Or.inr (Or.inl (expiredCooling pause many cooldown early''))
      · obtain ⟨rfl, rfl, rfl⟩ := Paused.unique calm (.cooled pause many cooldown) h₁
        exact Or.inl ⟨rfl, rfl, rfl, rfl, early''⟩
  | interruptedCooling pause' many cooldown' =>
      rcases pauses_beside calm early pause' with ⟨_, pause, early'⟩ | ⟨pause, early'⟩
      · exact Or.inr (Or.inl (expired pause early'))
      rcases pauses_beside calm early' cooldown' with ⟨_, cooldown, early''⟩ | ⟨rfl, late⟩
      · exact Or.inr (Or.inl (expiredCooling pause many cooldown early''))
      · refine Or.inr (Or.inr ⟨rfl, rfl, ?_, fun _ => rfl⟩)
        rintro rfl
        cases h₁ with
        | resumed _ few => exact absurd many (Nat.not_le.mpr few)
        | cooled once _ cooldown =>
            rw [pauses_congr_of_calm calm _ _ _ _, once] at pause
            obtain rfl := Pause.resumed.inj pause
            rw [resumed_of_calm calm cooldown]
            exact late
  | expiredCooling pause' many cooldown' =>
      rcases pauses_beside calm early pause' with ⟨_, pause, early'⟩ | ⟨pause, early'⟩
      · exact Or.inr (Or.inl (expired pause early'))
      rcases pauses_beside calm early' cooldown' with ⟨_, cooldown, early''⟩ | never
      · exact Or.inr (Or.inl (expiredCooling pause many cooldown early''))
      · exact never.elim

end Pauses

section Cycles

variable {r r' : Run (ScriptedTransport Session)}

/-- Two runs at one moment that have counted the same and have the same scripts left. -/
structure Alongside (r r' : Run (ScriptedTransport Session)) : Prop where
  policy : r'.controller.policy = r.controller.policy
  orderly : r.controller.Orderly
  attemptCount : r'.controller.attemptCount = r.controller.attemptCount
  failureCount : r'.controller.failureCount = r.controller.failureCount
  moment : r'.moment = r.moment
  calls : r.source.SameCalls r'.source

theorem Alongside.number (h : Alongside r r') : r'.controller.number = r.controller.number :=
  congrArg (fun n => (n + 1).toNat) h.attemptCount

theorem Alongside.orderly' (h : Alongside r r') : r'.controller.Orderly := by
  have orderly := h.orderly
  constructor
  · rw [Controller.failures, Controller.attempts, h.attemptCount, h.failureCount]
    exact orderly.failures
  · rw [Controller.attempts, h.attemptCount]
    exact orderly.room

/-- Two runs that count the same report, and pause as long as each other, stay alongside. -/
theorem Alongside.counted {s s' : Run (ScriptedTransport Session)}
    {source source' : ScriptedTransport Session} {report : Report} {failures : UInt32} {m : Moment}
    (h : Alongside r r') (orderly : s.controller.Orderly) (calls : source.SameCalls source')
    (left : Counted r source report failures m s)
    (left' : Counted r' source' report failures m s') : Alongside s s' where
  policy := by rw [left'.policy, left.policy, h.policy]
  orderly := orderly
  attemptCount := by rw [left'.attemptCount, left.attemptCount, h.attemptCount]
  failureCount := by rw [left'.failureCount, left.failureCount]
  moment := by rw [left'.moment, left.moment]
  calls := by
    rw [left'.source, left.source]
    exact calls

/-- How a run ends that a shutdown cuts at a tick, given the attempt `t` of the other run that was
the last one to begin before, and the attempt `t'` of the run itself. Where that attempt had ended
the run was pausing: the report of the attempt is the last one, and the failures are forgotten if
the pause was over and a cool-down had begun. Else the run was streaming: the shutdown is
reported. -/
structure CutShort (p : RetryPolicy) (tick : Nat) (t t' : Trial)
    (last : Run (ScriptedTransport Session)) : Prop where
  number : t'.number = t.number
  opened : t'.opened = t.opened
  early : t.opened.reached tick = false
  moment : last.moment = ⟨tick, true⟩
  state : last.controller.state = .done
  attempts : last.controller.attempts = t.number
  pausing : t.made.ended.reached tick = false → t'.made = t.made ∧
    ∃ report delay, t.made.report? = some report ∧ last.last = some report ∧
      p.pauseAfter report.outcome = some delay ∧
      (t.made.ended.tick + delay.ticks < tick → last.controller.failures = 0)
  streaming : t.made.ended.reached tick = true →
    ∃ report, t'.made.finish = .streamed report ∧ last.last = some report ∧
      report.outcome = .failed .localTaskCancelled ∧ report.elapsed = tick - t.opened.tick

/-- A cycle that goes on has a report, and does not lead back before the end of its attempt. -/
theorem tick_le_of_cycle {next : AttemptSource σ} {r r' : Run σ} (calm : frame.Calm)
    (he : r.cycle frame next = .inl r') :
    (∃ report, (r.trial next).made.report? = some report) ∧
      (r.trial next).made.ended.tick ≤ r'.moment.tick := by
  have cycle := cycle_cycle next (accepted_of_goes he)
  generalize r.cycle frame next = x at cycle he
  cases cycle with
  | unserviceable => simp at he
  | unfinished => simp at he
  | overflowed => simp at he
  | stopped => simp at he
  | @retried a _ report _ _ _ stop _ m r'' made reported _ _ _ _ paused counted =>
      obtain rfl : (r.trial next).made = a := congrArg Prod.fst made
      cases stop with
      | some e => simp [going] at he
      | none =>
          obtain rfl := Sum.inl.inj he
          rw [counted.moment]
          exact ⟨⟨report, reported⟩,
            Nat.le_trans (Nat.le_add_right _ _) (tick_le_of_paused calm paused)⟩

/-- A cycle of each run: they go on alongside, or the run without a shutdown is over before it, or
the other one is cut. -/
inductive CycleBeside (p : RetryPolicy) (tick : Nat) (t t' : Trial) :
    Run (ScriptedTransport Session) ⊕ RunEnd × Run (ScriptedTransport Session) →
      Run (ScriptedTransport Session) ⊕ RunEnd × Run (ScriptedTransport Session) → Prop
  | goOn {s s' : Run (ScriptedTransport Session)} (alongside : Alongside s s')
      (early : s.moment.reached tick = false) (same : t' = t)
      (ended : t.made.ended.reached tick = false) : CycleBeside p tick t t' (.inl s) (.inl s')
  | before {e : RunEnd} {s : Run (ScriptedTransport Session)}
      {x' : Run (ScriptedTransport Session) ⊕ RunEnd × Run (ScriptedTransport Session)}
      (early : s.moment.reached tick = false) : CycleBeside p tick t t' (.inr (e, s)) x'
  | cut {x : Run (ScriptedTransport Session) ⊕ RunEnd × Run (ScriptedTransport Session)}
      {s' : Run (ScriptedTransport Session)} (short : CutShort p tick t t' s')
      (later : ∀ s, x = .inl s → tick ≤ s.moment.tick) :
      CycleBeside p tick t t' x (.inr (.finished, s'))

/-- A cycle whose attempt the shutdown cuts. -/
theorem cycle_of_cut {next next' : AttemptSource (ScriptedTransport Session)} {a a' : Attempt}
    {source source' : ScriptedTransport Session} {report : Report} (calm : frame.Calm)
    (h : Alongside r r') (early : r.moment.reached tick = false)
    (made : next r.source r.controller.number r.moment = (a, source))
    (made' : next' r'.source r'.controller.number r'.moment = (a', source'))
    (late : a.ended.reached tick = true) (ended : a'.ended = ⟨tick, true⟩)
    (finish : a'.finish = .streamed report)
    (outcome : report.outcome = .failed .localTaskCancelled)
    (elapsed : report.elapsed = tick - r.moment.tick) :
    CycleBeside p tick (r.trial next) (r'.trial next') (r.cycle frame next)
      (r'.cycle (frame.shutAt tick) next') := by
  have hmade : (r.trial next).made = a := congrArg Prod.fst made
  have hmade' : (r'.trial next').made = a' := congrArg Prod.fst made'
  have reported : a'.report? = some report := by simp [Attempt.report?, finish]
  have final : r'.controller.policy.pauseAfter report.outcome = none := by
    rw [outcome]
    rfl
  obtain ⟨s', he, state, counted⟩ := cycle_of_final (frame.shutAt tick)
    (accepted_of_orderly _ h.orderly') made' reported final
  rw [he]
  apply CycleBeside.cut
  · constructor
    · exact h.number
    · exact h.moment
    · exact early
    · exact counted.moment.trans ended
    · exact state
    · exact counted.attempts.trans h.number
    · intro unreached
      simp [hmade, late] at unreached
    · intro _
      exact ⟨report, hmade' ▸ finish, counted.last, outcome, elapsed⟩
  · intro s hs
    have after := (Moment.reached_iff _ _).mp late
    have forward := (tick_le_of_cycle calm hs).2
    rw [hmade] at forward
    omega

/-- A run that a shutdown cuts in a pause after an attempt of both runs. -/
theorem cutShort_of_paused {next next' : AttemptSource (ScriptedTransport Session)}
    {source : ScriptedTransport Session} {s : Run (ScriptedTransport Session)} {report : Report}
    {delay : Duration} {failures : UInt32} (h : Alongside r r')
    (early : r.moment.reached tick = false) (same : r'.trial next' = r.trial next)
    (ended : (r.trial next).made.ended.reached tick = false)
    (reported : (r.trial next).made.report? = some report)
    (pause : p.pauseAfter report.outcome = some delay)
    (counted : Counted r' source report failures ⟨tick, true⟩ s)
    (state : s.controller.state = .done)
    (cooled : (r.trial next).made.ended.tick + delay.ticks < tick → failures = 0) :
    CutShort p tick (r.trial next) (r'.trial next') s where
  number := congrArg Trial.number same
  opened := congrArg Trial.opened same
  early := early
  moment := counted.moment
  state := state
  attempts := counted.attempts.trans h.number
  pausing _ := by
    refine ⟨congrArg Trial.made same, report, delay, reported, counted.last, pause, fun past => ?_⟩
    rw [counted.failures, cooled past]
    rfl
  streaming late := by simp [ended] at late

/-- A cycle of each run with one and the same attempt, which ends before the shutdown. -/
theorem cycle_of_same {next next' : AttemptSource (ScriptedTransport Session)} {a : Attempt}
    {source source' : ScriptedTransport Session} (calm : frame.Calm) (h : Alongside r r')
    (policy : r.controller.policy = p) (early : r.moment.reached tick = false)
    (made : next r.source r.controller.number r.moment = (a, source))
    (made' : next' r'.source r'.controller.number r'.moment = (a, source'))
    (calls : source.SameCalls source') (ended : a.ended.reached tick = false) :
    CycleBeside p tick (r.trial next) (r'.trial next') (r.cycle frame next)
      (r'.cycle (frame.shutAt tick) next') := by
  have hmade : (r.trial next).made = a := congrArg Prod.fst made
  have hmade' : (r'.trial next').made = a := congrArg Prod.fst made'
  have same : r'.trial next' = r.trial next := by
    rw [trial, trial, Trial.mk.injEq]
    exact ⟨h.number, h.moment, hmade'.trans hmade.symm⟩
  cases reported : a.report? with
  | none =>
      obtain ⟨e, s, he, _, moment⟩ := cycle_of_unreported frame
        (accepted_of_orderly frame h.orderly) made reported
      rw [he]
      exact .before (moment ▸ ended)
  | some report =>
      cases pause : p.pauseAfter report.outcome with
      | none =>
          obtain ⟨s, he, _, counted⟩ := cycle_of_final frame
            (accepted_of_orderly frame h.orderly) made reported (policy ▸ pause)
          rw [he]
          exact .before (counted.moment ▸ ended)
      | some delay =>
          rcases cycle_of_failed frame h.orderly made reported (policy ▸ pause) with
            ⟨_, s, he, _, counted⟩ | ⟨left, stop, failures, m, s, he, paused, counted, _⟩
          · rw [he]
            exact .before (counted.moment ▸ ended)
          · have policy' : r'.controller.policy = p := h.policy.trans policy
            rcases cycle_of_failed (frame.shutAt tick) h.orderly' made' reported
                (policy' ▸ pause) with
              ⟨used, _⟩ | ⟨_, stop', failures', m', s', he', paused', counted', state⟩
            · rw [h.policy, h.number] at used
              omega
            · rw [policy] at paused
              rw [policy', h.failureCount] at paused'
              rw [he']
              rcases paused.beside calm ended paused' with
                ⟨rfl, rfl, rfl, rfl, early'⟩ | ⟨rfl, early'⟩ | ⟨rfl, rfl, later, cooled⟩
              · have orderly := (leaves_of_goes he).orderly h.orderly
                rw [he]
                exact .goOn (h.counted orderly calls counted counted') (counted.moment ▸ early')
                  same (hmade ▸ ended)
              · rw [he]
                exact .before (counted.moment ▸ early')
              · refine .cut (cutShort_of_paused h early same (hmade ▸ ended) (hmade ▸ reported)
                  pause counted' (state rfl) (hmade ▸ cooled)) fun s₁ hs => ?_
                rw [he] at hs
                cases stop with
                | some e => simp [going] at hs
                | none =>
                    obtain rfl := Sum.inl.inj hs
                    rw [counted.moment]
                    exact later rfl

theorem cycle_beside (calmFrame : frame.Calm) (calm : around.Calm) (h : Alongside r r')
    (policy : r.controller.policy = p) (early : r.moment.reached tick = false) :
    CycleBeside p tick (r.trial (.scripted plan around limit))
      (r'.trial (.scripted plan (around.shutAt tick) limit))
      (r.cycle frame (.scripted plan around limit))
      (r'.cycle (frame.shutAt tick) (.scripted plan (around.shutAt tick) limit)) := by
  obtain ⟨beside, calls⟩ := Attempt.run_beside plan limit calm h.calls
    r.controller.number early
  have made' : AttemptSource.scripted plan (around.shutAt tick) limit r'.source
      r'.controller.number r'.moment =
      AttemptSource.scripted plan (around.shutAt tick) limit r'.source
        r.controller.number r.moment := by
    rw [h.number, h.moment]
  cases beside with
  | same same ended =>
      refine cycle_of_same calmFrame h policy early rfl (made'.trans ?_) calls ended
      exact Prod.ext same rfl
  | cut late ended finish outcome elapsed =>
      exact cycle_of_cut calmFrame h early rfl made' late ended finish outcome elapsed

end Cycles

section Runs

variable {r r' : Run (ScriptedTransport Session)}

/-- The attempts of two runs, one of which is cut at a tick: they are the same ones but for the last
one of the run that is cut. Those that it does not make begin no earlier than the shutdown. -/
structure Shortened (p : RetryPolicy) (tick : Nat) (ts ts' : List Trial)
    (ended' : RunEnd × Run (ScriptedTransport Session)) : Prop where
  finished : ended'.1 = .finished
  split : ∃ before t t' after, ts = before ++ t :: after ∧ ts' = before ++ [t'] ∧
    (∀ x ∈ before, x.opened.reached tick = false ∧ x.made.ended.reached tick = false) ∧
    (∀ x ∈ after, tick ≤ x.opened.tick) ∧ CutShort p tick t t' ended'.2

/-- The attempts of a run without a shutdown begin no earlier than the run. -/
theorem tick_le_of_trials {next : AttemptSource σ} (calm : frame.Calm)
    (timed : AttemptSource.Timed frame.limit next) (n : Nat) (r : Run σ) :
    ∀ t ∈ trials frame next n r, r.moment.tick ≤ t.opened.tick := by
  induction n generalizing r with
  | zero => simp [trials]
  | succ n ih =>
      intro t ht
      cases refused : r.refused frame with
      | true =>
          rw [trials_of_refused refused] at ht
          cases ht
      | false =>
          cases he : r.cycle frame next with
          | inr ended =>
              rw [trials_of_ends refused he, List.mem_singleton] at ht
              exact ht ▸ Nat.le_refl _
          | inl s =>
              rw [trials_of_goes he, List.mem_cons] at ht
              rcases ht with rfl | ht
              · exact Nat.le_refl _
              · obtain ⟨⟨report, reported⟩, forward⟩ := tick_le_of_cycle calm he
                have ended : (r.trial next).made.ended.tick = r.moment.tick + report.elapsed :=
                  (timed.reported r.source r.controller.number r.moment report reported).ended
                have later := ih s t ht
                omega

/-- Two runs that go alongside are shortened where the one without a shutdown goes past its tick. -/
theorem shortened_cycles {next next' : AttemptSource (ScriptedTransport Session)}
    {frame' : RunFrame} (calm : frame.Calm) (timed : AttemptSource.Timed frame.limit next)
    (beside : ∀ r r', Alongside r r' → r.controller.policy = p → r.moment.reached tick = false →
      CycleBeside p tick (r.trial next) (r'.trial next') (r.cycle frame next)
        (r'.cycle frame' next'))
    (n : Nat) (h : Alongside r r') (policy : r.controller.policy = p)
    (early : r.moment.reached tick = false)
    (past : tick < (cycles frame next n r).2.moment.tick) :
    Shortened p tick (trials frame next n r) (trials frame' next' n r')
      (cycles frame' next' n r') := by
  have contra {m : Moment} (early : m.reached tick = false) (past : tick < m.tick) : False := by
    have := (Moment.reached_iff m tick).mpr (Or.inl past)
    simp [early] at this
  induction n generalizing r r' with
  | zero => exact (contra early past).elim
  | succ n ih =>
      have step := beside r r' h policy early
      have accepted := accepted_of_orderly frame h.orderly
      have accepted' := accepted_of_orderly frame' h.orderly'
      have kept := (cycle_cycle next accepted).counts.1
      simp only [trials, cycles, accepted, accepted', Bool.false_eq_true, if_false] at past ⊢
      generalize r.cycle frame next = x at *
      generalize r'.cycle frame' next' = x' at *
      cases step with
      | before early' => exact (contra early' past).elim
      | @goOn s s' alongside early' same ended =>
          obtain ⟨finished, before, t, t', after, hts, hts', all, later, short⟩ :=
            ih alongside (kept.trans policy) early' past
          refine ⟨finished, r.trial next :: before, t, t', after, ?_, ?_, ?_, later, short⟩
          · simp only [hts]
            rfl
          · simp only [hts', same]
            rfl
          · intro y hy
            rcases List.mem_cons.mp hy with rfl | hy
            · exact ⟨early, ended⟩
            · exact all y hy
      | @cut _ s' short later =>
          refine ⟨rfl, [], r.trial next, r'.trial next', ?_⟩
          cases x with
          | inr ended => exact ⟨[], rfl, rfl, by simp, by simp, short⟩
          | inl s =>
              refine ⟨trials frame next n s, rfl, rfl, by simp, fun y hy => ?_, short⟩
              exact Nat.le_trans (later s rfl) (tick_le_of_trials calm timed n s y hy)

/-- A run whose channels cannot be made ends where it begins. -/
theorem moment_of_unadmitted (accepted : r.refused frame = false)
    (refused : Queue.admits plan.channelBuffer = false)
    (running : around.hasShutDown r.moment = false) {n : Nat} (pos : 1 ≤ n) :
    (cycles frame (.scripted plan around limit) n r).2.moment = r.moment := by
  obtain ⟨n, rfl⟩ := Nat.exists_eq_add_of_le' pos
  have made : AttemptSource.scripted plan around limit r.source r.controller.number r.moment =
      (⟨[], [], .unserviceable, r.moment⟩, r.source) := by
    simp [AttemptSource.scripted, Attempt.run, Attempt.openOn, running, refused]
  obtain ⟨e, s, he, _, moment⟩ := cycle_of_unreported frame accepted made rfl
  rw [cycles_of_ends he]
  exact moment

/-- The opens of two runs, one of which is shortened. -/
theorem Shortened.opens {ts ts' : List Trial} {ended' : RunEnd × Run (ScriptedTransport Session)}
    (h : Shortened p tick ts ts' ended') :
    (∀ t ∈ ts', t.opened.reached tick = false) ∧
    ((ts'.map fun t => t.opened.tick).filter fun o => decide (o < tick)) =
      (ts.map fun t => t.opened.tick).filter fun o => decide (o < tick) := by
  obtain ⟨_, before, t, t', after, rfl, rfl, all, later, short⟩ := h
  constructor
  · intro x hx
    rcases List.mem_append.mp hx with hx | hx
    · exact (all x hx).1
    · rw [List.mem_singleton.mp hx, short.opened]
      exact short.early
  · have noneBefore :
        ((after.map fun t => t.opened.tick).filter fun o => decide (o < tick)) = [] := by
      rw [List.filter_eq_nil_iff]
      intro o ho
      obtain ⟨x, hx, rfl⟩ := List.mem_map.mp ho
      simp only [decide_eq_true_eq]
      exact Nat.not_lt.mpr (later x hx)
    simp only [List.map_append, List.map_cons, List.map_nil, List.filter_append, List.filter_cons,
      noneBefore, short.opened, List.filter_nil]

end Runs

/-- A shutdown at a tick at which the run would still go on: nothing opens after it, what opened
before opens at the same ticks, and the attempts are those of the undisturbed run but for the last
one, if it was streaming. The run ends at the tick of the shutdown as done. All this holds whether
or not a pause sees the shutdown before a timer of the same tick. -/
theorem shutdown_cuts (policy : RetryPolicy) (plan : SessionPlan) (around : Surroundings)
    (calm : around.Calm) (frame : RunFrame) (undisturbed : frame.Calm) (scripts : List CallScript)
    (now : Moment) (tick : Nat) (early : now.reached tick = false) :
    let next := AttemptSource.scripted plan around frame.limit
    let next' := AttemptSource.scripted plan (around.shutAt tick) frame.limit
    let first := start (.fresh policy) (.ofScripts scripts) now
    let ts := trials frame next (budget (.fresh policy)) first
    let ts' := trials (frame.shutAt tick) next' (budget (.fresh policy)) first
    let ended := toEnd frame next (.fresh policy) (.ofScripts scripts) now
    let ended' := toEnd (frame.shutAt tick) next' (.fresh policy) (.ofScripts scripts) now
    let opens := ended.2.source.openedAt
    let opens' := ended'.2.source.openedAt
    tick < ended.2.moment.tick →
      (∀ o ∈ opens', o ≤ tick) ∧
      (opens'.filter fun o => decide (o < tick)) = (opens.filter fun o => decide (o < tick)) ∧
      opens = (ts.map fun t => t.opened.tick) ∧ opens' = (ts'.map fun t => t.opened.tick) ∧
      ended'.2.controller.attempts = opens'.length ∧
      ended'.1 = .finished ∧ ended'.2.moment = ⟨tick, true⟩ ∧ ended'.2.controller.state = .done ∧
      Shortened policy tick ts ts' ended' := by
  intro next next' first ts ts' ended ended' opens opens' past
  have orderly : first.controller.Orderly := .fresh policy
  have admits : Queue.admits plan.channelBuffer = true := by
    by_contra refused
    rw [Bool.not_eq_true] at refused
    have same : ended.2.moment = now :=
      moment_of_unadmitted (accepted_of_orderly frame orderly) refused (calm.running now)
        (Nat.le_add_left 1 _)
    have := (Moment.reached_iff now tick).mpr (Or.inl (same ▸ past))
    simp [early] at this
  have alongside : Alongside first first := ⟨rfl, orderly, rfl, rfl, rfl, rfl, rfl⟩
  have shortened : Shortened policy tick ts ts' ended' := by
    apply shortened_cycles undisturbed (timed_scripted plan around frame.limit)
    · intro r r' h policy early
      exact cycle_beside undisturbed calm h policy early
    · exact alongside
    · rfl
    · exact early
    · exact past
  obtain ⟨unreached, same⟩ := shortened.opens
  have hopens : opens = ts.map fun t => t.opened.tick :=
    calls_cycles ScriptedTransport.openedAt (P := fun _ => True)
      (fun t attempt now _ =>
        openedAt_scripted plan around frame.limit calm.shutDown calm.shutdownAt admits t attempt
          now)
      _ first fun _ _ => trivial
  have hopens' : opens' = ts'.map fun t => t.opened.tick := by
    refine calls_cycles ScriptedTransport.openedAt (P := fun now => now.reached tick = false) ?_ _
      first unreached
    intro t attempt now early
    apply openedAt_of_running plan _ frame.limit admits
    exact calm.running_shutAt early
  refine ⟨?_, ?_, hopens, hopens', ?_, shortened.finished, ?_⟩
  · intro o ho
    rw [hopens'] at ho
    obtain ⟨t, ht, rfl⟩ := List.mem_map.mp ho
    have before := (Moment.not_reached_iff _ _).mp (unreached t ht)
    omega
  · rw [hopens, hopens']
    exact same
  · rw [hopens', List.length_map]
    exact (attempts_cycles _ first orderly.room).trans (Nat.zero_add _)
  · obtain ⟨_, _, _, _, _, _, _, _, short⟩ := shortened.split
    exact ⟨short.moment, short.state, shortened⟩

/-- A refused call, a pause of a second, a cool-down of five, and a stream that is held, in the last
attempt that the policy leaves: a shutdown in the cool-down, and one on the stream. -/
theorem shutdown_cuts_held :
    let policy : RetryPolicy := ⟨2, .ofSeconds 1, .ofSeconds 2, 1, .ofSeconds 5⟩
    let scripts : List CallScript := [.refuse "nobody there", .stream ⟨[], .hold⟩]
    let frame : RunFrame := .plain "memory" false none 100000
    let undisturbed := toEnd frame (.scripted .plain .quiet 100000) (.fresh policy)
      (.ofScripts scripts) .origin
    let shut (tick : Nat) := toEnd (frame.shutAt tick)
      (.scripted .plain (Surroundings.quiet.shutAt tick) 100000) (.fresh policy)
      (.ofScripts scripts) .origin
    3000 < undisturbed.2.moment.tick ∧ (shut 3000).2.moment = ⟨3000, true⟩ ∧
      (shut 3000).2.controller.state = .done ∧ (shut 3000).2.source.openedAt = [0] ∧
      (shut 3000).2.controller.attempts = 1 ∧ (shut 3000).2.controller.failures = 0 ∧
      7000 < undisturbed.2.moment.tick ∧ (shut 7000).2.moment = ⟨7000, true⟩ ∧
      (shut 7000).2.controller.state = .done ∧ (shut 7000).2.source.openedAt = [0, 6000] ∧
      (shut 7000).2.controller.attempts = 2 ∧
      (shut 7000).2.last.map Report.outcome = some (.failed .localTaskCancelled) := by
  intro policy scripts frame undisturbed shut
  have calm : Surroundings.quiet.Calm := ⟨rfl, rfl, rfl⟩
  have past : 3000 < undisturbed.2.moment.tick ∧ 7000 < undisturbed.2.moment.tick := by
    decide +kernel
  obtain ⟨_, _, _, _, attempts, _, moment, state, _⟩ :=
    shutdown_cuts policy .plain .quiet calm frame ⟨rfl, rfl⟩ scripts .origin 3000 (by decide) past.1
  obtain ⟨_, _, _, _, attempts', _, moment', state', _⟩ :=
    shutdown_cuts policy .plain .quiet calm frame ⟨rfl, rfl⟩ scripts .origin 7000 (by decide) past.2
  have opens : (shut 3000).2.source.openedAt = [0] := by decide +kernel
  have opens' : (shut 7000).2.source.openedAt = [0, 6000] := by decide +kernel
  refine ⟨past.1, moment, state, opens, ?_, by decide +kernel, past.2, moment', state', opens', ?_,
    by decide +kernel⟩
  · exact attempts.trans (congrArg List.length opens)
  · exact attempts'.trans (congrArg List.length opens')

end Run

end DuplexStream
