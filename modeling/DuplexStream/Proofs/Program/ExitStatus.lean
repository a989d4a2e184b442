import DuplexStream.Program
import DuplexStream.Proofs.Controller.Budget
import DuplexStream.Rehearsal.Client

/-!
# How far the program gets

Settings that have been made always start a run. Two checks, of the file and of the session, keep
the capacity of the channels above zero; neither of them looks at `Queue.maxCapacity`, beyond which
there is no channel. A run stops at a channel that cannot be made in this one case only: the exit
status of a program with settings is zero whatever the run comes to, unless the capacity is beyond
the bound.
-/

namespace DuplexStream

section Accepted

/-- A session with settings that make sense has channels for at least one message. -/
theorem SessionPlan.one_le_channelBuffer {p : SessionPlan} (valid : p.validate = .ok ()) :
    1 ≤ p.channelBuffer := by
  simp only [validate] at valid
  split at valid
  · simp at valid
  · split at valid
    · simp at valid
    · omega

/-- Where nothing is zero a session is refused for its probability only. -/
theorem SessionPlan.dropProbability_of_refused {p : SessionPlan} {reason : InvalidSetting}
    (poll : p.writePoll.isZero = false) (buffer : p.channelBuffer ≠ 0)
    (refused : p.validate = .error reason) : ∃ q, reason = .dropProbability q := by
  cases hm : p.mode with
  | plain => simp [validate, poll, buffer, hm] at refused
  | reliable model =>
      simp only [validate, poll, buffer, hm, LossModel.validate, Bool.false_eq_true, if_false]
        at refused
      split at refused
      · simp at refused
      · exact ⟨_, (Except.error.inj refused).symm⟩

theorem RetryPolicy.zero_of_refused {p : RetryPolicy} {reason : InvalidSetting}
    (refused : p.validate = .error reason) :
    reason = .zero .maxRetries ∨ reason = .zero .cooldownThreshold := by
  simp only [validate] at refused
  split at refused
  · exact Or.inl (Except.error.inj refused).symm
  · split at refused
    · exact Or.inr (Except.error.inj refused).symm
    · simp at refused

/-- The mode of a session leaves its poll and its channels alone. -/
theorem Settings.sessionFor_eq_ok {mode : Mode} {choices : Choices} {file : ConfigFile}
    {p : SessionPlan} (h : sessionFor mode choices file = .ok p) :
    p.writePoll = .ofMillis file.session.writePoll.toNat ∧
      p.channelBuffer = file.session.channelBuffer.toNat := by
  cases mode with
  | simple => exact (Except.ok.inj h) ▸ ⟨rfl, rfl⟩
  | reliable => exact (Except.ok.inj h) ▸ ⟨rfl, rfl⟩
  | autoCancel =>
      simp only [sessionFor, SessionPlan.cancelledAfter] at h
      split at h
      · exact (Except.ok.inj h) ▸ ⟨rfl, rfl⟩
      · simp at h

theorem Settings.cancelAfter_of_refused {mode : Mode} {choices : Choices} {file : ConfigFile}
    {reason : InvalidSetting} (refused : sessionFor mode choices file = .error reason) :
    reason = .cancelAfter choices.delay := by
  cases mode with
  | simple => simp [sessionFor] at refused
  | reliable => simp [sessionFor] at refused
  | autoCancel =>
      simp only [sessionFor, SessionPlan.cancelledAfter] at refused
      split at refused
      · simp at refused
      · exact (Except.error.inj refused).symm

/-- What settings that have been made are made of. -/
theorem Settings.make_eq_ok {mode : Mode} {choices : Choices} {environment : Option String}
    {file : ConfigFile} {s : Settings} (made : make mode choices environment file = .ok s) :
    s.mode = mode ∧ s.policy = policyFor choices file ∧ s.policy.validate = .ok () ∧
      sessionFor mode choices file = .ok s.session ∧ s.session.validate = .ok () := by
  simp only [make] at made
  split at made
  · simp at made
  · cases hp : (policyFor choices file).validate with
    | error e => simp [hp] at made
    | ok =>
        cases hs : sessionFor mode choices file with
        | error e => simp [hp, hs] at made
        | ok p =>
            cases hv : p.validate with
            | error e => simp [hp, hs, hv] at made
            | ok =>
                simp only [hp, hs, hv, Except.ok.injEq] at made
                subst made
                exact ⟨rfl, rfl, hp, rfl, hv⟩

/-- Why settings cannot be made. -/
theorem Settings.make_eq_error {mode : Mode} {choices : Choices} {environment : Option String}
    {file : ConfigFile} {e : SettingsError} (made : make mode choices environment file = .error e) :
    e = .needsEnvelopeWire ∨ ∃ reason, e = .config reason ∧
      ((policyFor choices file).validate = .error reason ∨
        sessionFor mode choices file = .error reason ∨
        ∃ p, sessionFor mode choices file = .ok p ∧ p.validate = .error reason) := by
  simp only [make] at made
  split at made
  · exact Or.inl (Except.error.inj made).symm
  · right
    cases hp : (policyFor choices file).validate with
    | error reason =>
        simp only [hp, Except.error.injEq] at made
        exact ⟨reason, made.symm, Or.inl rfl⟩
    | ok =>
        cases hs : sessionFor mode choices file with
        | error reason =>
            simp only [hp, hs, Except.error.injEq] at made
            exact ⟨reason, made.symm, Or.inr (Or.inl rfl)⟩
        | ok p =>
            cases hv : p.validate with
            | error reason =>
                simp only [hp, hs, hv, Except.error.injEq] at made
                exact ⟨reason, made.symm, Or.inr (Or.inr ⟨p, rfl, hv⟩)⟩
            | ok => simp [hp, hs, hv] at made

/-- What the arguments have to be for settings to be made of them. -/
theorem Settings.ofArguments_eq_ok {φ : Type} {args : List String} {environment : Option String}
    {load : Option String → Except φ ConfigFile} {s : Settings}
    (made : ofArguments args environment load = .ok s) :
    ∃ line mode file, CommandLine.parse args = .ok line ∧ Mode.ofName? line.mode = some mode ∧
      load line.config = .ok file ∧ make mode line.choices environment file = .ok s := by
  simp only [ofArguments] at made
  cases hl : CommandLine.parse args with
  | error e => simp [hl] at made
  | ok line =>
      cases hm : Mode.ofName? line.mode with
      | none => simp [hl, hm] at made
      | some mode =>
          cases hf : load line.config with
          | error e => simp [hl, hm, hf] at made
          | ok file =>
              cases hs : make mode line.choices environment file with
              | error e => simp [hl, hm, hf, hs] at made
              | ok s' =>
                  simp only [hl, hm, hf, hs, Except.ok.injEq] at made
                  exact ⟨line, mode, file, rfl, hm, hf, made ▸ hs⟩

end Accepted

section Serving

variable {σ : Type}

/-- Every attempt of this source can make its channels. -/
def AttemptSource.Serves (next : AttemptSource σ) : Prop :=
  ∀ source attempt now, (next source attempt now).1.finish ≠ .unserviceable

namespace Run

variable {frame : RunFrame} {next : AttemptSource σ}

/-- A cycle ends at a channel that cannot be made only if its attempt does. -/
theorem Cycle.serviceable {r : Run σ} {x : Run σ ⊕ RunEnd × Run σ} (cycle : Cycle frame next r x)
    (serves : next.Serves) {r' : Run σ} : x ≠ .inr (.unserviceable, r') := by
  intro blocked
  cases cycle with
  | unserviceable made finish =>
      have made := serves r.source r.controller.number r.moment
      simp_all
  | unfinished => simp at blocked
  | overflowed => simp at blocked
  | stopped => simp at blocked
  | retried made reported judge policy attempts failures paused =>
      cases paused <;> simp [going] at blocked

theorem cycles_serviceable (serves : next.Serves) (n : Nat) (r : Run σ) :
    (cycles frame next n r).1 ≠ .unserviceable := by
  induction n generalizing r with
  | zero => exact nofun
  | succ n ih =>
      cases refused : r.refused frame with
      | true =>
          rw [cycles_of_ends (cycle_of_refused next refused)]
          exact nofun
      | false =>
          have cycle := cycle_cycle next refused
          cases he : r.cycle frame next with
          | inl r' =>
              rw [cycles_of_goes he]
              exact ih r'
          | inr ended =>
              obtain ⟨e, r'⟩ := ended
              rw [cycles_of_ends he]
              rintro rfl
              rw [he] at cycle
              exact cycle.serviceable serves rfl

/-- A first attempt without channels ends a run. -/
theorem toEnd_of_blocked {c : Controller} {source : σ} {now : Moment} (orderly : c.Orderly)
    (blocked : (next source c.number now).1.finish = .unserviceable) :
    (toEnd frame next c source now).1 = .unserviceable := by
  have accepted : (start c source now).refused frame = false := accepted_of_orderly frame orderly
  have cycle := cycle_cycle next accepted
  have unreported : (next source c.number now).1.report? = none := by
    simp [Attempt.report?, blocked]
  have ends : ∃ r', (start c source now).cycle frame next = .inr (.unserviceable, r') := by
    generalize (start c source now).cycle frame next = x at cycle
    cases cycle with
    | unserviceable => exact ⟨_, rfl⟩
    | unfinished made finish => simp_all [start]
    | overflowed made reported => simp_all [start]
    | stopped made reported => simp_all [start]
    | retried made reported => simp_all [start]
  obtain ⟨r', ends⟩ := ends
  rw [toEnd, budget, cycles_of_ends ends]

end Run

namespace Client

variable {s : Settings} {frame : RunFrame} {next : AttemptSource σ} {source : σ}

theorem single_finish (s : Settings) (next : AttemptSource σ) (source : σ) :
    (single s next source).finish = .unserviceable ↔
      (next source 1 .origin).1.finish = .unserviceable := by
  cases made : next source 1 .origin with
  | mk a source' => cases hf : a.finish <;> simp [single, made, hf, Attempt.report?]

theorem retrying_finish (s : Settings) (frame : RunFrame) (next : AttemptSource σ) (source : σ) :
    (retrying s frame next source).finish = .unserviceable ↔
      (Run.toEnd frame next (.fresh s.policy) source .origin).1 = .unserviceable := by
  have counted : (Run.toEnd frame next (.fresh s.policy) source .origin).1 ≠ .overflowed :=
    Run.cycles_not_overflowed _ (.fresh s.policy)
  cases made : Run.toEnd frame next (.fresh s.policy) source .origin with
  | mk ended run =>
      rw [made] at counted
      cases ended with
      | overflowed => exact absurd rfl counted
      | _ => simp [retrying, made]

/-- The client gets stuck at its channels at its first attempt or never. -/
theorem run_finish {blocked : Prop}
    (first : (next source 1 .origin).1.finish = .unserviceable ↔ blocked)
    (serves : ¬ blocked → next.Serves) :
    (run s frame next source).finish = .unserviceable ↔ blocked := by
  have retry : (retrying s frame next source).finish = .unserviceable ↔ blocked := by
    rw [retrying_finish]
    constructor
    · intro stuck
      by_contra free
      exact Run.cycles_serviceable (serves free) _ _ stuck
    · intro stuck
      exact Run.toEnd_of_blocked (.fresh s.policy) (first.mpr stuck)
  cases hm : s.mode with
  | autoCancel =>
      simp only [run, hm]
      exact (single_finish s next source).trans first
  | simple =>
      simp only [run, hm]
      exact retry
  | reliable =>
      simp only [run, hm]
      exact retry

end Client

end Serving

section Channels

theorem Queue.admits_eq_false_iff {capacity : Nat} (roomy : 1 ≤ capacity) :
    Queue.admits capacity = false ↔ ¬ capacity ≤ Queue.maxCapacity := by
  simp only [admits, decide_eq_false_iff_not]
  omega

/-- On scripted calls an attempt gets stuck only where there can be no channel, and a shutdown goes
before that. -/
theorem AttemptSource.scripted_finish (plan : SessionPlan) (around : Surroundings) (limit : Nat)
    (t : ScriptedTransport Session) (attempt : Nat) (now : Moment) :
    (AttemptSource.scripted plan around limit t attempt now).1.finish = .unserviceable ↔
      Queue.admits plan.channelBuffer = false ∧ around.hasShutDown now = false := by
  constructor
  · intro stuck
    refine ⟨admits_of_unserviceable plan around limit t attempt now stuck, ?_⟩
    cases down : around.hasShutDown now with
    | false => rfl
    | true => simp [AttemptSource.scripted, Attempt.run, Attempt.openOn, down] at stuck
  · rintro ⟨refused, running⟩
    simp [AttemptSource.scripted, Attempt.run, Attempt.openOn, refused, running]

theorem AttemptSource.unreachable_finish (plan : SessionPlan) (connection : Connection)
    (attempt : Nat) (now : Moment) :
    (AttemptSource.unreachable plan connection () attempt now).1.finish = .unserviceable ↔
      Queue.admits plan.channelBuffer = false := by
  cases fits : Queue.admits plan.channelBuffer <;> simp [AttemptSource.unreachable, fits]

/-- The client on scripted calls gets stuck at channels beyond the bound, unless it has been shut
down before it starts. -/
theorem ClientRehearsal.run_finish {s : Settings} (roomy : 1 ≤ s.session.channelBuffer)
    (scripts : List CallScript) (around : Surroundings) (limit : Nat) :
    (ClientRehearsal.run ⟨s, scripts, around, limit⟩).finish = .unserviceable ↔
      ¬ (around.shutDown = true ∨ s.session.channelBuffer ≤ Queue.maxCapacity) := by
  have beyond := Queue.admits_eq_false_iff roomy
  have origin : around.hasShutDown .origin = around.shutDown := by
    cases hd : around.shutdownAt <;>
      simp [Surroundings.hasShutDown, Moment.reachedAny, Moment.reached, Moment.origin, hd]
  unfold ClientRehearsal.run
  apply Client.run_finish
  · rw [AttemptSource.scripted_finish, origin, beyond]
    grind
  · intro free t attempt now stuck
    obtain ⟨refused, running⟩ := (AttemptSource.scripted_finish ..).mp stuck
    have up : around.shutDown = false := by
      rw [Surroundings.hasShutDown, Bool.or_eq_false_iff] at running
      exact running.1
    apply free
    rintro (down | fits)
    · simp [up] at down
    · exact beyond.mp refused fits

/-- The same where nobody listens. -/
theorem Program.runSettings_finish {s : Settings} (roomy : 1 ≤ s.session.channelBuffer) :
    (runSettings s).finish = .unserviceable ↔ ¬ s.session.channelBuffer ≤ Queue.maxCapacity := by
  have beyond := Queue.admits_eq_false_iff roomy
  apply Client.run_finish
  · rw [AttemptSource.unreachable_finish, beyond]
  · intro free _ attempt now stuck
    exact free (beyond.mp ((AttemptSource.unreachable_finish ..).mp stuck))

end Channels

namespace Program

theorem endStatus_of_iff {finish : ClientEnd} {fits : Prop} [Decidable fits]
    (stuck : finish = .unserviceable ↔ ¬ fits) : endStatus finish = if fits then 0 else 101 := by
  split
  · rename_i fit
    cases finish with
    | unserviceable => exact absurd fit (stuck.mp rfl)
    | session => rfl
    | controller => rfl
    | unfinished => rfl
  · rename_i beyond
    rw [stuck.mpr beyond]
    rfl

/-- How the program finds its file. -/
def loader (around : Environment) (explicit : Option String) : Except LoadError ConfigFile :=
  ConfigFile.load around.files explicit around.configPath

theorem run_of_settings {args : List String} {around : Environment} {s : Settings}
    (start : Settings.ofArguments args around.server (loader around) = .ok s) :
    (run args around).status = endStatus (runSettings s).finish := by
  have made : Settings.ofArguments args around.server (fun explicit =>
      ConfigFile.load around.files explicit around.configPath) = .ok s := start
  simp only [run, made]

/-- The second check finds no zero in a file that has passed the first one. -/
theorem not_zero_of_accepted {text : String} {file : ConfigFile}
    (accepted : ConfigFile.parse text = .ok file) {mode : Mode} {choices : Choices}
    {environment : Option String} {e : SettingsError}
    (made : Settings.make mode choices environment file = .error e) :
    e ≠ .config (.zero .writePoll) ∧ e ≠ .config (.zero .channelBuffer) := by
  obtain ⟨_, poll, buffer, _⟩ := ConfigFile.validate_eq_ok_iff.1
    (ConfigFile.parse_eq_ok_iff.1 accepted).2
  rcases Settings.make_eq_error made with rfl | ⟨reason, rfl, policy | session | ⟨p, plan, refused⟩⟩
  · constructor <;> simp
  · rcases RetryPolicy.zero_of_refused policy with rfl | rfl <;> constructor <;> simp
  · rw [Settings.cancelAfter_of_refused session]
    constructor <;> simp
  · obtain ⟨hpoll, hbuffer⟩ := Settings.sessionFor_eq_ok plan
    have poll' : p.writePoll.isZero = false := by
      have positive : file.session.writePoll.toNat ≠ 0 := fun zero =>
        poll (UInt64.toNat_inj.mp zero)
      simp only [hpoll, Duration.isZero, Duration.ofMillis, Duration.nanosPerTick,
        beq_eq_false_iff_ne]
      omega
    have buffer' : p.channelBuffer ≠ 0 := by
      rw [hbuffer]
      exact fun zero => buffer (UInt64.toNat_inj.mp zero)
    obtain ⟨q, rfl⟩ := SessionPlan.dropProbability_of_refused poll' buffer' refused
    constructor <;> simp

/-- A file that is accepted and settings that are made of it: the channels hold what the file says,
at least one message. A client with these settings ends with the status zero whatever its run comes
to, if the channels hold no more than there can be. If they are to hold more, nothing refuses them,
and a client that has not been shut down before it starts breaks down at its first attempt. So does
the program on any arguments that settings can be made of, at an address where nobody listens. -/
theorem exit_status_of_accepted (text : String) (file : ConfigFile)
    (accepted : ConfigFile.parse text = .ok file) (mode : Mode) (choices : Choices)
    (environment : Option String) :
    (∀ e, Settings.make mode choices environment file = .error e →
      e ≠ .config (.zero .writePoll) ∧ e ≠ .config (.zero .channelBuffer)) ∧
    (∀ s, Settings.make mode choices environment file = .ok s →
      s.session.channelBuffer = file.session.channelBuffer.toNat ∧
      1 ≤ s.session.channelBuffer ∧
      ∀ scripts around limit,
        endStatus (ClientRehearsal.run ⟨s, scripts, around, limit⟩).finish =
          if around.shutDown = true ∨ s.session.channelBuffer ≤ Queue.maxCapacity then 0
          else 101) ∧
    ∀ args around s, Settings.ofArguments args around.server (loader around) = .ok s →
      (run args around).status =
        if s.session.channelBuffer ≤ Queue.maxCapacity then 0 else 101 := by
  refine ⟨fun e made => not_zero_of_accepted accepted made, fun s made => ?_,
    fun args around s start => ?_⟩
  · obtain ⟨_, _, _, plan, valid⟩ := Settings.make_eq_ok made
    have roomy := SessionPlan.one_le_channelBuffer valid
    refine ⟨(Settings.sessionFor_eq_ok plan).2, roomy, fun scripts around limit => ?_⟩
    exact endStatus_of_iff (ClientRehearsal.run_finish roomy scripts around limit)
  · obtain ⟨_, _, _, _, _, _, made⟩ := Settings.ofArguments_eq_ok start
    obtain ⟨_, _, _, _, valid⟩ := Settings.make_eq_ok made
    rw [run_of_settings start]
    exact endStatus_of_iff (runSettings_finish (SessionPlan.one_le_channelBuffer valid))

/-- The largest channel that there can be is accepted, and used. -/
theorem exit_status_of_accepted_largest :
    let text := "[session]\nchannel_buffer = 2305843009213693951\n"
    let args := ["--mode", "simple", "-s", "127.0.0.1:1", "--config", "client.toml",
      "--max-retries", "1"]
    let around : Environment := ⟨none, "client.toml", fun _ => .bytes (Text.Utf8.bytesOf text)⟩
    ∃ file s, ConfigFile.parse text = .ok file ∧
      Settings.ofArguments args around.server (loader around) = .ok s ∧
      s.session.channelBuffer = Queue.maxCapacity ∧ (run args around).status = 0 := by
  intro text args around
  let file : ConfigFile :=
    { ConfigFile.default with
      session := { SessionValues.default with channelBuffer := 2305843009213693951 } }
  let choices : Choices :=
    ⟨some "127.0.0.1:1", CommandLine.default.choices.delay, none, none, some 1, none⟩
  have accepted : ConfigFile.parse text = .ok file := by decide +kernel
  have start : Settings.ofArguments args around.server (loader around) =
      (Settings.make .simple choices none file).mapError .settings := by decide +kernel
  cases made : Settings.make .simple choices none file with
  | error e =>
      have fine : (Settings.make .simple choices none file).isOk = true := by decide +kernel
      simp [made, Except.isOk, Except.toBool] at fine
  | ok s =>
      rw [made] at start
      obtain ⟨_, settings, status⟩ :=
        exit_status_of_accepted text file accepted .simple choices none
      obtain ⟨capacity, _⟩ := settings s made
      have largest : s.session.channelBuffer = Queue.maxCapacity :=
        capacity.trans (by decide +kernel)
      refine ⟨file, s, accepted, start, largest, ?_⟩
      rw [status args around s start, if_pos (Nat.le_of_eq largest)]

/-- A channel for one message more is accepted too, and breaks the program down. -/
theorem accepted_beyond_channels :
    let text := "[session]\nchannel_buffer = 2305843009213693952\n"
    let args := ["--mode", "simple", "-s", "127.0.0.1:1", "--config", "client.toml"]
    let around : Environment := ⟨none, "client.toml", fun _ => .bytes (Text.Utf8.bytesOf text)⟩
    (ConfigFile.parse text).isOk = true ∧
      (Settings.ofArguments args around.server (loader around)).isOk = true ∧
      (run args around).status = 101 := by
  decide +kernel

end Program

end DuplexStream
