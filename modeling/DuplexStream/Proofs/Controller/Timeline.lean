import DuplexStream.Proofs.Controller.Cycles
import DuplexStream.Proofs.Session.Termination
import Mathlib.Algebra.GroupWithZero.Nat
import Mathlib.Data.List.Chain

/-!
# When attempts begin

Without a shutdown the attempts of a run follow one another at fixed distances: the time of the
session, the pause after its outcome, and a cool-down after every attempt whose number the threshold
divides. The failures that the controller remembers are the number of attempts modulo the threshold
(`Run.InStep`), which is why the cool-downs come where they do.
-/

namespace DuplexStream

/-- An attempt of a run: its number, the moment at which it begins, and what it comes to. -/
structure Trial where
  number : Nat
  opened : Moment
  made : Attempt

namespace Trial

/-- The messages that an attempt reports. -/
def messages (t : Trial) : Nat :=
  (t.made.report?.map Report.messageCount).getD 0

/-- One attempt follows another: after its session, its pause, and its cool-down if there is one. -/
def Succeeds (p : RetryPolicy) (t t' : Trial) : Prop :=
  ∃ report delay, t.made.report? = some report ∧ p.pauseAfter report.outcome = some delay ∧
    t'.number = t.number + 1 ∧
    t'.opened.tick = t.opened.tick + report.elapsed + delay.ticks +
      (if p.cooldownThreshold.toNat ∣ t.number then p.cooldown.ticks else 0)

end Trial

/-- A report goes with an attempt: its number, and the time it took, which is none if it did not
open. -/
structure Trial.Reported (t : Trial) (report : Report) : Prop where
  attempt : report.attempt = t.number
  ended : t.made.ended.tick = t.opened.tick + report.elapsed
  unopened : t.made.wasOpened = false → report.elapsed = 0

/-- A source whose reports go with the attempts, which are unfinished only at the limit of the
clock. -/
structure AttemptSource.Timed {σ : Type} (limit : Nat) (next : AttemptSource σ) : Prop where
  reported : ∀ source attempt now report, (next source attempt now).1.report? = some report →
    Trial.Reported ⟨attempt, now, (next source attempt now).1⟩ report
  unfinished : ∀ source attempt now, (next source attempt now).1.finish = .unfinished →
    limit ≤ (next source attempt now).1.ended.tick

namespace Run

variable {σ : Type} {frame : RunFrame} {next : AttemptSource σ} {r r' : Run σ} {p : RetryPolicy}

/-- The attempt that a run makes next. -/
def trial (next : AttemptSource σ) (r : Run σ) : Trial :=
  ⟨r.controller.number, r.moment, (next r.source r.controller.number r.moment).1⟩

/-- The attempts of at most `n` cycles, in order. -/
def trials (frame : RunFrame) (next : AttemptSource σ) : Nat → Run σ → List Trial
  | 0, _ => []
  | n + 1, r =>
    if r.refused frame then []
    else
      match r.cycle frame next with
      | .inl r' => r.trial next :: trials frame next n r'
      | .inr _ => [r.trial next]

section Trials

variable {n : Nat}

theorem trials_of_refused (refused : r.refused frame = true) :
    trials frame next (n + 1) r = [] :=
  if_pos refused

theorem trials_of_goes (goes : r.cycle frame next = .inl r') :
    trials frame next (n + 1) r = r.trial next :: trials frame next n r' := by
  simp only [trials, accepted_of_goes goes, Bool.false_eq_true, if_false, goes]

theorem trials_of_ends {ended : RunEnd × Run σ} (accepted : r.refused frame = false)
    (ends : r.cycle frame next = .inr ended) : trials frame next (n + 1) r = [r.trial next] := by
  simp only [trials, accepted, Bool.false_eq_true, if_false, ends]

theorem cycles_of_goes (goes : r.cycle frame next = .inl r') :
    cycles frame next (n + 1) r = cycles frame next n r' := by
  simp only [cycles, goes]

theorem cycles_of_ends {ended : RunEnd × Run σ} (ends : r.cycle frame next = .inr ended) :
    cycles frame next (n + 1) r = ended := by
  simp only [cycles, ends]

end Trials

/-- The failures that are remembered go with the number of attempts. -/
structure InStep (p : RetryPolicy) (r : Run σ) : Prop where
  policy : r.controller.policy = p
  orderly : r.controller.Orderly
  failures : r.controller.failures = r.controller.attempts % p.cooldownThreshold.toNat

section Pauses

theorem resumed_of_calm (calm : frame.Calm) {b : Bool} {m m' : Moment} {delay : Duration}
    (h : pauses b frame m delay = .resumed m') : m'.tick = m.tick + delay.ticks := by
  simp only [pauses, pause, calm.shutDown, calm.shutdownAt, Moment.reachedAny, Bool.or_self,
    Bool.false_eq_true, if_false] at h
  split at h
  · rename_i zero
    obtain rfl := Pause.resumed.inj h
    rw [zero, Nat.add_zero]
  · split at h
    · rw [← Pause.resumed.inj h]
    · simp at h

theorem unfinished_of_calm (calm : frame.Calm) {b : Bool} {m m' : Moment} {delay : Duration}
    (h : pauses b frame m delay = .unfinished m') : m'.tick = frame.limit := by
  simp only [pauses, pause, calm.shutDown, calm.shutdownAt, Moment.reachedAny, Bool.or_self,
    Bool.false_eq_true, if_false] at h
  split at h
  · simp at h
  · split at h
    · simp at h
    · rw [← Pause.unfinished.inj h]

theorem not_interrupted_of_calm (calm : frame.Calm) {b : Bool} {m m' : Moment} {delay : Duration} :
    pauses b frame m delay ≠ .interrupted m' := by
  intro h
  simp only [pauses, pause, calm.shutDown, calm.shutdownAt, Moment.reachedAny, Bool.or_self,
    Bool.false_eq_true, if_false] at h
  split at h
  · simp at h
  · split at h <;> simp at h

/-- One failure more: as many as the threshold are remembered after every attempt that the threshold
divides. -/
theorem mod_succ_cases {k t : Nat} (cools : 1 ≤ t) :
    (t ≤ k % t + 1 ∧ t ∣ k + 1 ∧ (k + 1) % t = 0) ∨
      (k % t + 1 < t ∧ ¬ t ∣ k + 1 ∧ (k + 1) % t = k % t + 1) := by
  have hlt : k % t < t := Nat.mod_lt _ cools
  have hmod : (k % t + 1) % t = (k + 1) % t := Nat.mod_add_mod k t 1
  by_cases full : k % t + 1 = t
  · rw [full, Nat.mod_self] at hmod
    exact Or.inl ⟨Nat.le_of_eq full.symm, Nat.dvd_of_mod_eq_zero hmod.symm, hmod.symm⟩
  · rw [Nat.mod_eq_of_lt (by omega)] at hmod
    refine Or.inr ⟨by omega, fun divides => ?_, hmod.symm⟩
    have := Nat.mod_eq_zero_of_dvd divides
    omega

end Pauses

section Cycles

/-- What a cycle leaves for the next one. -/
structure GoesOn (p : RetryPolicy) (next : AttemptSource σ) (r r' : Run σ) : Prop where
  inStep : InStep p r'
  attempts : r'.controller.attempts = r.controller.attempts + 1
  left : r'.controller.attempts < p.maxRetries.toNat
  total : r'.total = r.total + (r.trial next).messages
  source : r'.source = (next r.source r.controller.number r.moment).2
  succeeds : ∀ t, t.number = r'.controller.attempts + 1 → t.opened = r'.moment →
    Trial.Succeeds p (r.trial next) t

/-- What a run that has come to its end has counted. -/
structure Ends (limit : Nat) (next : AttemptSource σ) (r : Run σ) (e : RunEnd) (r' : Run σ) :
    Prop where
  attempts : r'.controller.attempts = r.controller.number
  total : r'.total = r.total + (r.trial next).messages
  source : r'.source = (next r.source r.controller.number r.moment).2
  finished : e = .finished → ∃ report, (r.trial next).made.report? = some report ∧
    r'.last = some report ∧ r'.moment = (r.trial next).made.ended
  atEnd : e = .finished ∨ (r.trial next).made.finish = .unserviceable ∨ limit ≤ r'.moment.tick

theorem messages_of_report {t : Trial} {report : Report} (h : t.made.report? = some report) :
    t.messages = report.messageCount := by
  simp [Trial.messages, h]

theorem messages_of_none {t : Trial} (h : t.made.report? = none) : t.messages = 0 := by
  simp [Trial.messages, h]

theorem ends_of_counted {limit : Nat} {a : Attempt} {source : σ} {report : Report}
    {failures : UInt32} {m : Moment} {e : RunEnd}
    (made : next r.source r.controller.number r.moment = (a, source))
    (reported : a.report? = some report) (counted : Counted r source report failures m r')
    (finished : e = .finished → m = a.ended) (atEnd : e = .finished ∨ limit ≤ m.tick) :
    Ends limit next r e r' := by
  have hmade : (r.trial next).made = a := congrArg Prod.fst made
  have hreport : (r.trial next).made.report? = some report := hmade ▸ reported
  refine ⟨counted.attempts, ?_, counted.source.trans (congrArg Prod.snd made).symm,
    fun he => ?_, ?_⟩
  · rw [messages_of_report hreport]
    exact counted.total
  · exact ⟨report, hreport, counted.last, by rw [counted.moment, hmade, finished he]⟩
  · rw [counted.moment]
    exact atEnd.imp_right Or.inr

theorem goesOn_of_counted {limit : Nat} (timed : AttemptSource.Timed limit next) (h : InStep p r)
    {a : Attempt} {source : σ} {report : Report} {delay : Duration} {failures : UInt32}
    {m : Moment} (made : next r.source r.controller.number r.moment = (a, source))
    (reported : a.report? = some report) (pause : p.pauseAfter report.outcome = some delay)
    (leaves : Leaves r r') (counted : Counted r source report failures m r')
    (before : failures.toNat = (r.controller.attempts + 1) % p.cooldownThreshold.toNat)
    (tick : m.tick = a.ended.tick + delay.ticks +
      (if p.cooldownThreshold.toNat ∣ r.controller.attempts + 1 then p.cooldown.ticks else 0)) :
    GoesOn p next r r' := by
  have hmade : (r.trial next).made = a := congrArg Prod.fst made
  have hreport : (r.trial next).made.report? = some report := hmade ▸ reported
  have hended : a.ended.tick = r.moment.tick + report.elapsed :=
    hmade ▸ (timed.reported r.source r.controller.number r.moment report hreport).ended
  have hnumber := h.orderly.number
  have attempts : r'.controller.attempts = r.controller.attempts + 1 :=
    leaves.attempts.trans hnumber
  refine ⟨⟨counted.policy.trans h.policy, leaves.orderly h.orderly, ?_⟩, attempts, ?_, ?_,
    counted.source.trans (congrArg Prod.snd made).symm, fun t number opened => ?_⟩
  · rw [counted.failures, attempts, before]
  · rw [leaves.attempts, ← h.policy]
    exact leaves.left
  · rw [messages_of_report hreport]
    exact counted.total
  · refine ⟨report, delay, hreport, pause, ?_, ?_⟩
    · rw [number, leaves.attempts]
      rfl
    · rw [opened, counted.moment, tick, hended, ← hnumber]
      rfl

/-- A cycle without a shutdown goes on as the policy says, or is the last one. -/
theorem Cycle.calm {x : Run σ ⊕ RunEnd × Run σ} (cycle : Cycle frame next r x) (calm : frame.Calm)
    (timed : AttemptSource.Timed frame.limit next) (cools : 1 ≤ p.cooldownThreshold.toNat)
    (h : InStep p r) :
    (∃ r', x = .inl r' ∧ GoesOn p next r r') ∨
    (∃ e r', x = .inr (e, r') ∧ Ends frame.limit next r e r') := by
  have cycle' := cycle
  cases cycle with
  | @unserviceable a source r' made finish left =>
      have hmade : (r.trial next).made = a := congrArg Prod.fst made
      have hreport : (r.trial next).made.report? = none := by simp [hmade, Attempt.report?, finish]
      refine Or.inr ⟨_, r', rfl, congrArg UInt32.toNat left.attemptCount, ?_,
        left.source.trans (congrArg Prod.snd made).symm, by simp, Or.inr (Or.inl (hmade ▸ finish))⟩
      rw [messages_of_none hreport]
      exact left.total
  | @unfinished a source r' made finish left =>
      have hmade : (r.trial next).made = a := congrArg Prod.fst made
      have hreport : (r.trial next).made.report? = none := by simp [hmade, Attempt.report?, finish]
      have hlimit := timed.unfinished r.source r.controller.number r.moment
        (by rw [made]; exact finish)
      rw [made] at hlimit
      refine Or.inr ⟨_, r', rfl, congrArg UInt32.toNat left.attemptCount, ?_,
        left.source.trans (congrArg Prod.snd made).symm, by simp, Or.inr (Or.inr ?_)⟩
      · rw [messages_of_none hreport]
        exact left.total
      · rw [left.moment]
        exact hlimit
  | overflowed made reported failed refuses left =>
      exact absurd ((h.orderly.acceptsFailure frame.overflow).symm.trans refuses)
        Bool.false_ne_true
  | stopped made reported judge policy attempts failures counted =>
      exact Or.inr ⟨_, _, rfl, ends_of_counted made reported counted (fun _ => rfl) (Or.inl rfl)⟩
  | @retried a source report c c' delay stop failures' m r' made reported judge policy attempts
      failures paused counted =>
      obtain ⟨pause, _, hc'⟩ := Controller.judge_retry judge
      rw [policy, h.policy] at pause
      have hfailures : c'.failureCount.toNat =
          r.controller.attempts % p.cooldownThreshold.toNat + 1 := by
        rw [hc', failures, h.orderly.failed, h.failures]
      rw [h.policy] at paused
      have hmod := mod_succ_cases (k := r.controller.attempts) cools
      cases paused with
      | @resumed b m' resumed few =>
          obtain ⟨_, not_dvd, hmod⟩ := hmod.resolve_left fun full => by omega
          refine Or.inl ⟨r', rfl, goesOn_of_counted timed h made reported pause
            cycle'.leaves counted (hfailures.trans hmod.symm) ?_⟩
          rw [resumed_of_calm calm resumed, if_neg not_dvd, Nat.add_zero]
      | @cooled b b' m' m'' resumed many cooldown =>
          obtain ⟨_, dvd, hmod⟩ := hmod.resolve_right fun few => by omega
          refine Or.inl ⟨r', rfl, goesOn_of_counted timed h made reported pause
            cycle'.leaves counted hmod.symm ?_⟩
          rw [resumed_of_calm calm cooldown, resumed_of_calm calm resumed, if_pos dvd]
      | interrupted pause => exact absurd pause (not_interrupted_of_calm calm)
      | interruptedCooling _ _ cooldown => exact absurd cooldown (not_interrupted_of_calm calm)
      | expired pause =>
          exact Or.inr ⟨_, r', rfl, ends_of_counted made reported counted (by simp)
            (Or.inr (Nat.le_of_eq (unfinished_of_calm calm pause).symm))⟩
      | expiredCooling _ _ cooldown =>
          exact Or.inr ⟨_, r', rfl, ends_of_counted made reported counted (by simp)
            (Or.inr (Nat.le_of_eq (unfinished_of_calm calm cooldown).symm))⟩

end Cycles

section Runs

/-- The attempts of a run and what the run has counted at its end. -/
structure Timetable (p : RetryPolicy) (limit : Nat) (next : AttemptSource σ) (r : Run σ)
    (ts : List Trial) (ended : RunEnd × Run σ) : Prop where
  made : ∀ t ∈ ts, ∃ source, t.made = (next source t.number t.opened).1
  numbers : ts.map Trial.number = List.range' (r.controller.attempts + 1) ts.length
  first : ts.head?.map Trial.opened = some r.moment
  chain : ts.IsChain (Trial.Succeeds p)
  attempts : ended.2.controller.attempts = r.controller.attempts + ts.length
  total : ended.2.total = r.total + (ts.map Trial.messages).sum
  finished : ended.1 = .finished → ∃ t report, ts.getLast? = some t ∧
    t.made.report? = some report ∧ ended.2.last = some report ∧ ended.2.moment = t.made.ended
  atEnd : ended.1 = .finished ∨ (∃ t ∈ ts, t.made.finish = .unserviceable) ∨
    limit ≤ ended.2.moment.tick

theorem timetable_of_ends {limit : Nat} {e : RunEnd} (orderly : r.controller.Orderly)
    (h : Ends limit next r e r') : Timetable p limit next r [r.trial next] (e, r') where
  made := by
    intro t ht
    obtain rfl := List.mem_singleton.mp ht
    exact ⟨r.source, rfl⟩
  numbers := by
    rw [← orderly.number]
    rfl
  first := rfl
  chain := .singleton _
  attempts := h.attempts.trans orderly.number
  total := by simpa using h.total
  finished := by
    intro he
    obtain ⟨report, hreport, hlast, hmoment⟩ := h.finished he
    exact ⟨_, report, rfl, hreport, hlast, hmoment⟩
  atEnd := h.atEnd.imp_right (Or.imp_left fun hf => ⟨_, List.mem_singleton_self _, hf⟩)

/-- One attempt before the others. -/
theorem Timetable.cons {limit : Nat} {ts : List Trial} {ended : RunEnd × Run σ}
    (orderly : r.controller.Orderly) (goes : GoesOn p next r r')
    (h : Timetable p limit next r' ts ended) :
    Timetable p limit next r (r.trial next :: ts) ended := by
  obtain ⟨t, ts', rfl⟩ : ∃ t ts', ts = t :: ts' := by
    cases ts with
    | nil => simpa using h.first
    | cons t ts' => exact ⟨t, ts', rfl⟩
  have hopened : t.opened = r'.moment := by simpa using h.first
  have hnumber : t.number = r'.controller.attempts + 1 := by
    have := h.numbers
    rw [List.map_cons, List.length_cons, List.range'_succ] at this
    exact (List.cons.inj this).1
  refine ⟨fun x hx => ?_, ?_, rfl, ?_, ?_, ?_, fun he => ?_, h.atEnd.imp_right (Or.imp_left ?_)⟩
  · rcases List.mem_cons.mp hx with rfl | hx
    · exact ⟨r.source, rfl⟩
    · exact h.made x hx
  · rw [List.map_cons, h.numbers, goes.attempts, List.length_cons, List.range'_succ,
      ← orderly.number]
    rfl
  · exact .cons_cons (goes.succeeds t hnumber hopened) h.chain
  · rw [h.attempts, goes.attempts]
    simp only [List.length_cons]
    omega
  · rw [h.total, goes.total]
    simp only [List.map_cons, List.sum_cons]
    omega
  · obtain ⟨last, report, hlast, rest⟩ := h.finished he
    exact ⟨last, report, by rw [List.getLast?_cons_cons, hlast], rest⟩
  · rintro ⟨x, hx, hf⟩
    exact ⟨x, List.mem_cons_of_mem _ hx, hf⟩

/-- Where there is room for another attempt, the budget of a run is what the policy leaves, and
always one. -/
theorem budget_eq_max {c : Controller} (room : c.attempts + 1 < UInt32.size) :
    budget c = max 1 (c.policy.maxRetries.toNat - c.attempts) := by
  have number : c.number = c.attempts + 1 := toNat_raise room
  rw [budget, number]
  omega

/-- Every run without a shutdown keeps to the timetable, given that its cycles are at least as many
as the attempts that the policy leaves. -/
theorem timetable_cycles (calm : frame.Calm) (timed : AttemptSource.Timed frame.limit next)
    (cools : 1 ≤ p.cooldownThreshold.toNat) (n : Nat) (h : InStep p r)
    (enough : p.maxRetries.toNat ≤ r.controller.attempts + n) (pos : 1 ≤ n) :
    Timetable p frame.limit next r (trials frame next n r) (cycles frame next n r) := by
  induction n generalizing r with
  | zero => omega
  | succ n ih =>
      have accepted := accepted_of_orderly frame h.orderly
      rcases (cycle_cycle next accepted).calm calm timed cools h with
        ⟨r', he, goes⟩ | ⟨e, r', he, ends⟩
      · rw [trials_of_goes he, cycles_of_goes he]
        have hattempts := goes.attempts
        have hleft := goes.left
        exact .cons h.orderly goes (ih goes.inStep (by omega) (by omega))
      · rw [trials_of_ends accepted he, cycles_of_ends he]
        exact timetable_of_ends h.orderly ends

/-- A run that has room for its first attempt counts all its attempts. -/
theorem attempts_cycles (n : Nat) (r : Run σ) (room : r.controller.attempts + 1 < UInt32.size) :
    (cycles frame next n r).2.controller.attempts =
      r.controller.attempts + (trials frame next n r).length := by
  induction n generalizing r with
  | zero => rfl
  | succ n ih =>
      have accepted : r.refused frame = false := frame.overflow.accepts room
      have number : r.controller.number = r.controller.attempts + 1 := toNat_raise room
      cases he : r.cycle frame next with
      | inl r' =>
          have leaves := leaves_of_goes he
          rw [trials_of_goes he, cycles_of_goes he, List.length_cons, ih r' leaves.room,
            leaves.attempts, number]
          omega
      | inr ended =>
          have counted := (cycle_cycle next accepted).counts.2.1
          rw [he] at counted
          rw [trials_of_ends accepted he, cycles_of_ends he]
          exact (congrArg UInt32.toNat counted).trans number

/-- Attempts leave their trace in a source, if they do so where they begin. -/
theorem calls_cycles (calls : σ → List Nat) {P : Moment → Prop}
    (called : ∀ source attempt now, P now →
      calls (next source attempt now).2 = calls source ++ [now.tick])
    (n : Nat) (r : Run σ) (all : ∀ t ∈ trials frame next n r, P t.opened) :
    calls (cycles frame next n r).2.source =
      calls r.source ++ (trials frame next n r).map fun t => t.opened.tick := by
  induction n generalizing r with
  | zero => simp [cycles, trials]
  | succ n ih =>
      cases refused : r.refused frame with
      | true =>
          rw [trials_of_refused refused, cycles_of_ends (cycle_of_refused next refused)]
          exact (List.append_nil _).symm
      | false =>
          obtain ⟨_, _, source⟩ := (cycle_cycle next refused).counts
          cases he : r.cycle frame next with
          | inl r' =>
              rw [he] at source
              rw [trials_of_goes he, List.forall_mem_cons] at all
              rw [trials_of_goes he, cycles_of_goes he, ih r' all.2,
                show r'.source = _ from source, called _ _ r.moment all.1, List.map_cons,
                List.append_assoc]
              rfl
          | inr ended =>
              rw [he] at source
              rw [trials_of_ends refused he, List.forall_mem_singleton] at all
              rw [trials_of_ends refused he, cycles_of_ends he,
                show ended.2.source = _ from source, called _ _ r.moment all]
              rfl

end Runs

end Run

section Scripts

variable (plan : SessionPlan) (around : Surroundings) (limit : Nat)

/-- The report of a session goes with its clock. -/
theorem Session.report_run (attempt : Nat) (stream : StreamScript) (opened : Moment)
    {report : Report}
    (h : ((Session.start plan attempt stream around opened).run limit).report? = some report) :
    report.attempt = attempt ∧
      ((Session.start plan attempt stream around opened).run limit).now =
        opened.tick + report.elapsed := by
  have continues :=
    (unfolds_run limit (Session.start plan attempt stream around opened)).reaches.continues
  obtain ⟨t, _, _, rfl⟩ := report_eq_some h
  refine ⟨continues.attempt, ?_⟩
  have hopened : ((Session.start plan attempt stream around opened).run limit).openedAt =
      opened.tick := continues.openedAt
  have hle : opened.tick ≤ ((Session.start plan attempt stream around opened).run limit).now :=
    continues.now_le
  simp only [elapsed, hopened]
  omega

/-- A session without a report has come to the limit of the clock. -/
theorem Session.limit_le_of_unreported (attempt : Nat) (stream : StreamScript) (opened : Moment)
    (h : ((Session.start plan attempt stream around opened).run limit).report? = none) :
    limit ≤ ((Session.start plan attempt stream around opened).run limit).now := by
  have poll : 1 ≤ (Session.start plan attempt stream around opened).writer.poll :=
    Nat.le_max_left 1 plan.writePoll.ticks
  obtain ⟨_, finished | late⟩ := over_of_next_eq_none (next_run limit poll)
  · obtain ⟨⟨t, ended⟩, phase⟩ := (isFinished_iff _).mp finished
    simp [report?, ended, (isEnded_iff _).mpr phase] at h
  · exact late

/-- Opening a stream comes to a report without a session, to no channel, or to a session. -/
theorem Attempt.openOn_cases (attempt : Nat) (now : Moment) (t : ScriptedTransport Session) :
    (∃ report events t', openOn plan attempt around now t = (.refused report, events, t') ∧
      report.attempt = attempt ∧ report.elapsed = 0) ∨
    (Queue.admits plan.channelBuffer = false ∧
      openOn plan attempt around now t = (.unserviceable, [], t)) ∨
    (∃ stream events t', openOn plan attempt around now t =
      (.opened (Session.start plan attempt stream around now), events, t')) := by
  cases hs : around.hasShutDown now with
  | true => exact Or.inl ⟨_, _, _, by rw [openOn, if_pos hs], rfl, rfl⟩
  | false =>
      cases ha : Queue.admits plan.channelBuffer with
      | false => exact Or.inr (Or.inl ⟨rfl, by simp [openOn, hs, ha]⟩)
      | true =>
          cases hc : t.call now.tick with
          | mk answer t' =>
              cases answer with
              | ok stream =>
                  exact Or.inr (Or.inr ⟨stream, _, t', by simp only [openOn, hs, ha, hc]; rfl⟩)
              | error e =>
                  exact Or.inl ⟨.ofOpenError attempt e, _, t',
                    by simp only [openOn, hs, ha, hc]; rfl, rfl, rfl⟩

/-- What an attempt on an open session says of its end. -/
theorem Attempt.stream_cases (opening : List Event) (s : Session) :
    (∃ report, (s.run limit).report? = some report ∧
      (stream opening limit s).1.finish = .streamed report) ∨
    ((s.run limit).report? = none ∧ (stream opening limit s).1.finish = .unfinished) := by
  cases h : (s.run limit).report? with
  | some report => exact Or.inl ⟨report, rfl, by simp [stream, h]⟩
  | none => exact Or.inr ⟨rfl, by simp [stream, h]⟩

/-- Scripted attempts go with the clock. -/
theorem timed_scripted : AttemptSource.Timed limit (.scripted plan around limit) := by
  refine ⟨fun t attempt now report h => ?_, fun t attempt now h => ?_⟩ <;>
    simp only [AttemptSource.scripted] at h ⊢ <;>
    rcases Attempt.openOn_cases plan around attempt now t with
      ⟨refused, events, t', he, hattempt, helapsed⟩ | ⟨_, he⟩ | ⟨script, events, t', he⟩ <;>
    simp only [Attempt.run, he] at h ⊢
  · obtain rfl : refused = report := Option.some.inj h
    exact ⟨hattempt, by rw [helapsed]; rfl, fun _ => helapsed⟩
  · simp [Attempt.report?] at h
  · rcases Attempt.stream_cases limit events (Session.start plan attempt script around now) with
      ⟨report', hreport, hf⟩ | ⟨_, hf⟩
    · obtain rfl : report' = report := by simpa [Attempt.report?, hf] using h
      obtain ⟨hattempt, hnow⟩ := Session.report_run plan around limit attempt script now hreport
      exact ⟨hattempt, hnow, by simp [Attempt.wasOpened, hf]⟩
    · simp [Attempt.report?, hf] at h
  · simp at h
  · simp at h
  · rcases Attempt.stream_cases limit events (Session.start plan attempt script around now) with
      ⟨report', _, hf⟩ | ⟨hreport, _⟩
    · simp [hf] at h
    · exact Session.limit_le_of_unreported plan around limit attempt script now hreport

theorem ScriptedTransport.openedAt_call {σ : Type} (t : ScriptedTransport σ) (now : Nat) :
    (t.call now).2.openedAt = t.openedAt ++ [now] := by
  cases hs : t.scripts with
  | nil => simp [call, hs]
  | cons script rest => cases script <;> simp [call, hs]

/-- An attempt before a shutdown makes its call, when there can be channels. -/
theorem openedAt_of_running (admits : Queue.admits plan.channelBuffer = true)
    (t : ScriptedTransport Session) (attempt : Nat) {now : Moment}
    (running : around.hasShutDown now = false) :
    (AttemptSource.scripted plan around limit t attempt now).2.openedAt =
      t.openedAt ++ [now.tick] := by
  rw [← ScriptedTransport.openedAt_call]
  cases hc : t.call now.tick with
  | mk answer t' =>
      cases answer with
      | ok stream =>
          simp [AttemptSource.scripted, Attempt.run, Attempt.openOn, running, admits, hc,
            ScriptedTransport.attach]
      | error e =>
          simp [AttemptSource.scripted, Attempt.run, Attempt.openOn, running, admits, hc]

/-- Without a shutdown every attempt makes its call, when there can be channels. -/
theorem openedAt_scripted (calm : around.shutDown = false) (never : around.shutdownAt = none)
    (admits : Queue.admits plan.channelBuffer = true) (t : ScriptedTransport Session)
    (attempt : Nat) (now : Moment) :
    (AttemptSource.scripted plan around limit t attempt now).2.openedAt =
      t.openedAt ++ [now.tick] := by
  apply openedAt_of_running plan around limit admits
  simp [Surroundings.hasShutDown, calm, never, Moment.reachedAny]

/-- Attempts are unserviceable only where there can be no channels. -/
theorem admits_of_unserviceable (t : ScriptedTransport Session) (attempt : Nat) (now : Moment)
    (h : (AttemptSource.scripted plan around limit t attempt now).1.finish = .unserviceable) :
    Queue.admits plan.channelBuffer = false := by
  simp only [AttemptSource.scripted] at h
  rcases Attempt.openOn_cases plan around attempt now t with
    ⟨refused, events, t', he, _, _⟩ | ⟨ha, _⟩ | ⟨script, events, t', he⟩
  · simp [Attempt.run, he] at h
  · exact ha
  · simp only [Attempt.run, he] at h
    rcases Attempt.stream_cases limit events (Session.start plan attempt script around now) with
      ⟨_, _, hf⟩ | ⟨_, hf⟩ <;> simp [hf] at h

end Scripts

namespace Run

/-- Without a shutdown, the attempts of a fresh controller on scripted calls are numbered from one
and follow one another at the distances that the policy gives. Each is a call of the transport at
the tick at which it begins. The run counts them, adds up their messages, and ends where the last
one ends, with its report; it does so unless the clock reaches its limit first. -/
theorem trials_timeline (policy : RetryPolicy) (cools : 1 ≤ policy.cooldownThreshold.toNat)
    (plan : SessionPlan) (around : Surroundings) (calm : around.shutDown = false)
    (never : around.shutdownAt = none) (frame : RunFrame) (undisturbed : frame.Calm)
    (scripts : List CallScript) (now : Moment) :
    let next := AttemptSource.scripted plan around frame.limit
    let ts := trials frame next (budget (.fresh policy))
      (start (.fresh policy) (.ofScripts scripts) now)
    let ended := toEnd frame next (.fresh policy) (.ofScripts scripts) now
    ts.map Trial.number = List.range' 1 ts.length ∧
    ts.head?.map Trial.opened = some now ∧
    ts.IsChain (Trial.Succeeds policy) ∧
    (∀ t ∈ ts, ∀ report, t.made.report? = some report → t.Reported report) ∧
    (Queue.admits plan.channelBuffer = true →
      ended.2.source.openedAt = ts.map fun t => t.opened.tick) ∧
    ended.2.controller.attempts = ts.length ∧
    ended.2.total = (ts.map Trial.messages).sum ∧
    (ended.1 = .finished → ∃ t report, ts.getLast? = some t ∧ t.made.report? = some report ∧
      ended.2.last = some report ∧ report.attempt = ended.2.controller.attempts ∧
      ended.2.moment = t.made.ended) ∧
    (ended.1 = .finished ∨ Queue.admits plan.channelBuffer = false ∨
      frame.limit ≤ ended.2.moment.tick) := by
  intro next ts ended
  let first : Run (ScriptedTransport Session) := start (.fresh policy) (.ofScripts scripts) now
  have timed : AttemptSource.Timed frame.limit next := timed_scripted plan around frame.limit
  have inStep : InStep policy first := ⟨rfl, .fresh policy, (Nat.zero_mod _).symm⟩
  have enough : policy.maxRetries.toNat ≤ first.controller.attempts + budget (.fresh policy) := by
    rw [budget_eq_max (Controller.Orderly.fresh policy).room]
    simp only [first, start, Controller.fresh]
    omega
  have table : Timetable policy frame.limit next first ts ended :=
    timetable_cycles undisturbed timed cools _ inStep enough (Nat.le_add_left 1 _)
  have reported (t : Trial) (ht : t ∈ ts) (report : Report) (h : t.made.report? = some report) :
      t.Reported report := by
    obtain ⟨source, hmade⟩ := table.made t ht
    rw [hmade] at h
    have := timed.reported source t.number t.opened report h
    rwa [← hmade] at this
  have hattempts : ended.2.controller.attempts = ts.length :=
    table.attempts.trans (Nat.zero_add _)
  have numbers : ts.map Trial.number = List.range' 1 ts.length := table.numbers
  refine ⟨numbers, table.first, table.chain, reported, fun admits => ?_, hattempts,
    table.total.trans (Nat.zero_add _), fun finished => ?_, table.atEnd.imp_right (Or.imp_left ?_)⟩
  · exact calls_cycles ScriptedTransport.openedAt (P := fun _ => True)
      (fun t attempt now _ =>
        openedAt_scripted plan around frame.limit calm never admits t attempt now) _ first
        fun _ _ => trivial
  · obtain ⟨t, report, hlast, hreport, hsame, hmoment⟩ := table.finished finished
    refine ⟨t, report, hlast, hreport, hsame, ?_, hmoment⟩
    -- the last number is the number of attempts
    have hnumber : some t.number = (List.range' 1 ts.length).getLast? := by
      rw [← numbers, List.getLast?_map, hlast]
      rfl
    have hpos : ts.length ≠ 0 := by
      intro hzero
      simp [List.length_eq_zero_iff.mp hzero] at hlast
    rw [List.getLast?_range', if_neg hpos, Option.some.injEq] at hnumber
    rw [(reported t (List.mem_of_getLast? hlast) report hreport).attempt, hnumber, hattempts]
    omega
  · rintro ⟨t, ht, hf⟩
    obtain ⟨source, hmade⟩ := table.made t ht
    exact admits_of_unserviceable plan around frame.limit source t.number t.opened (hmade ▸ hf)

/-- A refused call, a stream that fails after three hundred ticks, a rejected call, and a stream
that ends: the threshold of two brings a cool-down after the second attempt. -/
theorem trials_timeline_cooled :
    let policy : RetryPolicy := ⟨4, .ofSeconds 1, .ofSeconds 2, 2, .ofSeconds 5⟩
    let scripts : List CallScript := [.refuse "nobody there",
      .stream ⟨[StreamScript.message 1 [], .wait (.ofMillis 300), StreamScript.message 2 []],
        .fail ⟨.internal, "broken"⟩⟩,
      .reject ⟨.unavailable, "busy"⟩, .stream ⟨[StreamScript.message 3 []], .close⟩]
    let frame : RunFrame := .plain "memory" false none 100000
    let next := AttemptSource.scripted .plain .quiet 100000
    let ts := trials frame next (budget (.fresh policy))
      (start (.fresh policy) (.ofScripts scripts) .origin)
    let ended := toEnd frame next (.fresh policy) (.ofScripts scripts) .origin
    1 ≤ policy.cooldownThreshold.toNat ∧ ts.IsChain (Trial.Succeeds policy) ∧
      ended.2.source.openedAt = ts.map (fun t => t.opened.tick) ∧
      ended.2.source.openedAt = [0, 1000, 8300, 9300] ∧
      ended.1 = .finished ∧ ended.2.total = 3 ∧
      ∃ report, ended.2.last = some report ∧ report.attempt = 4 := by
  intro policy scripts frame next ts ended
  have h := trials_timeline policy (by decide) .plain .quiet rfl rfl frame ⟨rfl, rfl⟩ scripts
    .origin
  obtain ⟨_, _, chain, _, opened, _, _, last, _⟩ := h
  have finished : ended.1 = .finished := by decide +kernel
  have attempts : ended.2.controller.attempts = 4 := by decide +kernel
  obtain ⟨t, report, _, _, hlast, hattempt, _⟩ := last finished
  exact ⟨by decide, chain, opened (by decide +kernel), by decide +kernel, finished,
    by decide +kernel, report, hlast, hattempt.trans attempts⟩

/-- A pause of a tenth of a tick takes a whole tick: three refused calls do not follow one another
at the distances of the policy, counted in nanoseconds. -/
theorem pause_takes_whole_ticks :
    let policy : RetryPolicy := ⟨3, ⟨100000⟩, .ofSeconds 2, 5, .ofSeconds 5⟩
    let scripts : List CallScript := List.replicate 3 (.refuse "nobody there")
    let frame : RunFrame := .plain "memory" false none 100000
    let next := AttemptSource.scripted .plain .quiet 100000
    let ts := trials frame next (budget (.fresh policy))
      (start (.fresh policy) (.ofScripts scripts) .origin)
    let nanos (ticks : Nat) : Nat := (Duration.ofMillis ticks).nanos
    frame.Calm ∧ 1 ≤ policy.cooldownThreshold.toNat ∧
      ts.map (fun t => t.opened.tick) = [0, 1, 2] ∧
      ¬ ts.IsChain fun t t' => ∃ report delay, t.made.report? = some report ∧
        policy.pauseAfter report.outcome = some delay ∧
        nanos t'.opened.tick = nanos t.opened.tick + nanos report.elapsed + delay.nanos +
          (if policy.cooldownThreshold.toNat ∣ t.number then policy.cooldown.nanos else 0) := by
  intro policy scripts frame next ts nanos
  have opened : ts.map (fun t => t.opened.tick) = [0, 1, 2] := by decide +kernel
  have reports : ts.map (fun t => (t.number, t.made.report?)) = [1, 2, 3].map fun k =>
      (k, some (.unopened k (.failed .transportUnavailable) (some "nobody there"))) := by
    decide +kernel
  refine ⟨⟨rfl, rfl⟩, by decide, opened, fun chain => ?_⟩
  match ts, opened, reports, chain with
  | [_], opened, _, _ => simp at opened
  | t :: t' :: _, opened, reports, .cons_cons ⟨report, delay, reported, pause, distance⟩ _ =>
      simp only [List.map_cons, List.cons.injEq] at opened reports
      obtain ⟨number, told⟩ := Prod.mk.inj reports.1
      obtain rfl := Option.some.inj (told.symm.trans reported)
      obtain rfl := Option.some.inj pause
      rw [opened.1, opened.2.1, number] at distance
      simp [nanos, Duration.ofMillis, Duration.nanosPerTick, policy, Report.unopened] at distance

end Run

end DuplexStream
