import DuplexStream.Proofs.Binary64.Seconds
import DuplexStream.Proofs.Program.ExitStatus

/-!
# A valid file leaves the complaints to the command line

The values of a file are checked when it is read and once more when they have been joined with the
command line. On a file that has passed the first check the second one finds only what the command
line has brought in: whether settings are made, and what is wrong otherwise, depends on the mode and
the command line alone (`Settings.make_of_valid`). What is made is the file with the values of the
command line in front of it (`Settings.made_of_valid`).
-/

namespace DuplexStream

section Valid

variable {file : ConfigFile}

/-- With a file that is valid, a policy can be spoilt by a number of attempts only. -/
theorem Settings.validate_policyFor (valid : file.validate = .ok ()) (choices : Choices) :
    (policyFor choices file).validate =
      if choices.maxRetries = some 0 then .error (.zero .maxRetries) else .ok () := by
  obtain ⟨_, _, _, policy⟩ := ConfigFile.validate_eq_ok_iff.1 valid
  cases said : choices.maxRetries with
  | none =>
      have same : policyFor choices file = file.reconnect.policy := by
        rw [policyFor, said, Option.getD_none]
      rw [same, policy, if_neg (Option.some_ne_none 0).symm]
  | some n =>
      have threshold : file.reconnect.policy.cooldownThreshold ≠ 0 := by
        intro zero
        simp only [RetryPolicy.validate, zero, if_true] at policy
        split at policy <;> cases policy
      simp only [policyFor, said, Option.getD_some, RetryPolicy.validate, if_neg threshold,
        Option.some.injEq]

/-- With a file that is valid, a session can be spoilt by its probability only. -/
theorem SessionPlan.validate_of_valid (valid : file.validate = .ok ()) (mode : AckMode)
    (cancelAfter : Option Duration) :
    (SessionPlan.mk mode cancelAfter (.ofMillis file.session.writePoll.toNat)
        file.session.channelBuffer.toNat).validate =
      match mode with
      | .plain => .ok ()
      | .reliable model => model.validate := by
  obtain ⟨_, poll, buffer, _⟩ := ConfigFile.validate_eq_ok_iff.1 valid
  have noZero : (Duration.ofMillis file.session.writePoll.toNat).isZero = false := by
    have positive : file.session.writePoll.toNat ≠ 0 := fun zero => poll (UInt64.toNat_inj.mp zero)
    simp only [Duration.isZero, Duration.ofMillis, Duration.nanosPerTick, beq_eq_false_iff_ne]
    omega
  have buffered : file.session.channelBuffer.toNat ≠ 0 := fun zero =>
    buffer (UInt64.toNat_inj.mp zero)
  cases mode <;> simp only [validate, noZero, Bool.false_eq_true, if_false, if_neg buffered]

/-- The probability of a valid file is one; one from the command line has to be looked at. -/
theorem Settings.validate_lossFor (valid : file.validate = .ok ()) (choices : Choices) :
    (lossFor choices file).validate =
      match choices.dropProbability.filter fun p => !p.isUnit with
      | some p => .error (.dropProbability p)
      | none => .ok () := by
  obtain ⟨unit, _, _, _⟩ := ConfigFile.validate_eq_ok_iff.1 valid
  cases said : choices.dropProbability with
  | none => simp [lossFor, LossModel.validate, said, unit]
  | some p =>
      cases within : p.isUnit <;>
        simp [lossFor, LossModel.validate, said, within, Option.filter_some]

end Valid

namespace Settings

/-- The first complaint about a mode and a command line, whatever a valid file says. -/
def complaint? (mode : Mode) (choices : Choices) : Option SettingsError :=
  if choices.wire.getD mode.preferredWire = .framed ∧ mode = .reliable then some .needsEnvelopeWire
  else if choices.maxRetries = some 0 then some (.config (.zero .maxRetries))
  else
    match mode with
    | .simple => none
    | .autoCancel =>
      if Duration.ofBinarySeconds? choices.delay = none then
        some (.config (.cancelAfter choices.delay))
      else none
    | .reliable =>
      (choices.dropProbability.filter fun p => !p.isUnit).map fun p => .config (.dropProbability p)

/-- The session of a mode: a timer in one mode, acknowledgements in another, the rest of it from the
file. -/
def sessionOf (mode : Mode) (choices : Choices) (file : ConfigFile) : SessionPlan :=
  { mode := if mode = .reliable then .reliable (lossFor choices file) else .plain
    cancelAfter := if mode = .autoCancel then Duration.ofBinarySeconds? choices.delay else none
    writePoll := .ofMillis file.session.writePoll.toNat
    channelBuffer := file.session.channelBuffer.toNat }

/-- The command line in front of the file. -/
def joined (mode : Mode) (choices : Choices) (environment : Option String) (file : ConfigFile) :
    Settings :=
  let target := chooseTarget choices.server environment
  { mode
    target
    wire := choices.wire.getD mode.preferredWire
    channel := channelFor target file
    session := sessionOf mode choices file
    policy := policyFor choices file }

section Making

variable {file : ConfigFile} {mode : Mode} {choices : Choices} {environment : Option String}

theorem sessionFor_eq (mode : Mode) (choices : Choices) (file : ConfigFile) :
    sessionFor mode choices file =
      if mode = .autoCancel ∧ Duration.ofBinarySeconds? choices.delay = none then
        .error (.cancelAfter choices.delay)
      else .ok (sessionOf mode choices file) := by
  cases mode with
  | simple => rfl
  | reliable => rfl
  | autoCancel =>
      cases delay : Duration.ofBinarySeconds? choices.delay with
      | none => simp [sessionFor, SessionPlan.cancelledAfter, delay]
      | some d => simp [sessionFor, SessionPlan.cancelledAfter, sessionOf, delay]

theorem validate_sessionOf (valid : file.validate = .ok ()) :
    (sessionOf mode choices file).validate =
      if mode = .reliable then (lossFor choices file).validate else .ok () := by
  rw [sessionOf, SessionPlan.validate_of_valid valid]
  by_cases acknowledges : mode = .reliable
  · simp only [if_pos acknowledges]
  · simp only [if_neg acknowledges]

/-- After the checks of the wire and of the policy there is the one of the session. -/
theorem make_of_session {session : SessionPlan}
    (wire : ¬(choices.wire.getD mode.preferredWire = .framed ∧ mode = .reliable))
    (policy : (policyFor choices file).validate = .ok ())
    (made : sessionFor mode choices file = .ok session) :
    make mode choices environment file =
      match session.validate with
      | .error e => .error (.config e)
      | .ok _ => .ok
        { mode
          target := chooseTarget choices.server environment
          wire := choices.wire.getD mode.preferredWire
          channel := channelFor (chooseTarget choices.server environment) file
          session
          policy := policyFor choices file } := by
  cases checked : session.validate <;> simp only [make, if_neg wire, policy, made, checked]

/-- On a valid file the settings are made unless there is a complaint about the mode and the command
line. -/
theorem make_of_valid (valid : file.validate = .ok ()) :
    make mode choices environment file =
      match complaint? mode choices with
      | some e => .error e
      | none => .ok (joined mode choices environment file) := by
  have policy := validate_policyFor valid choices
  by_cases wire : choices.wire.getD mode.preferredWire = .framed ∧ mode = .reliable
  · simp only [make, complaint?, if_pos wire]
  by_cases retries : choices.maxRetries = some 0
  · rw [if_pos retries] at policy
    simp only [make, complaint?, policy, if_neg wire, if_pos retries]
  rw [if_neg retries] at policy
  have session := sessionFor_eq mode choices file
  by_cases late : mode = .autoCancel ∧ Duration.ofBinarySeconds? choices.delay = none
  · obtain ⟨rfl, delay⟩ := late
    rw [if_pos ⟨rfl, delay⟩] at session
    simp only [make, complaint?, policy, session, if_neg wire, if_neg retries, if_pos delay]
  · rw [if_neg late] at session
    -- The session stays folded until it has been checked: its delays are products of large numbers.
    rw [make_of_session wire policy session, validate_sessionOf valid, validate_lossFor valid]
    simp only [complaint?, if_neg wire, if_neg retries]
    cases mode with
    | simple => rfl
    | autoCancel =>
        have timed : Duration.ofBinarySeconds? choices.delay ≠ none := fun untimed =>
          late ⟨rfl, untimed⟩
        simp only [if_neg timed]
        rfl
    | reliable =>
        cases choices.dropProbability.filter fun p => !p.isUnit <;> rfl

theorem make_eq_error_iff (valid : file.validate = .ok ()) {e : SettingsError} :
    make mode choices environment file = .error e ↔ complaint? mode choices = some e := by
  rw [make_of_valid valid]
  cases complaint? mode choices <;> simp

/-- What is made of a valid file. -/
theorem made_of_valid (valid : file.validate = .ok ()) {s : Settings}
    (made : make mode choices environment file = .ok s) :
    s = joined mode choices environment file ∧ complaint? mode choices = none := by
  rw [make_of_valid valid] at made
  cases complaint : complaint? mode choices with
  | some e => simp [complaint] at made
  | none =>
      simp only [complaint, Except.ok.injEq] at made
      exact ⟨made.symm, rfl⟩

/-- The delay is looked at in the mode with a timer only, the probability in the mode with
acknowledgements. -/
theorem exists_complaint_iff : (∃ e, complaint? mode choices = some e) ↔
    (mode = .reliable ∧ choices.wire.getD mode.preferredWire = .framed) ∨
      choices.maxRetries = some 0 ∨
      (mode = .autoCancel ∧ Duration.ofBinarySeconds? choices.delay = none) ∨
      (mode = .reliable ∧ ∃ p, choices.dropProbability = some p ∧ p.isUnit = false) := by
  simp only [complaint?]
  by_cases wire : choices.wire.getD mode.preferredWire = .framed ∧ mode = .reliable
  · rw [if_pos wire]
    exact iff_of_true ⟨_, rfl⟩ (Or.inl wire.symm)
  by_cases retries : choices.maxRetries = some 0
  · simp [wire, retries]
  rw [if_neg wire, if_neg retries]
  cases mode with
  | simple => simp [retries]
  | autoCancel =>
      by_cases delay : Duration.ofBinarySeconds? choices.delay = none <;> simp [retries, delay]
  | reliable =>
      have envelope : choices.wire.getD Mode.reliable.preferredWire ≠ .framed := fun framed =>
        wire ⟨framed, rfl⟩
      cases said : choices.dropProbability with
      | none => simp [retries, envelope]
      | some p => cases within : p.isUnit <;> simp [retries, envelope, within, Option.filter_some]

theorem cancelAfter_joined (timed : mode = .autoCancel) (fine : complaint? mode choices = none) :
    (joined mode choices environment file).session.cancelAfter ≠ none := by
  intro absent
  obtain ⟨e, complaint⟩ := exists_complaint_iff.mpr
    (Or.inr (Or.inr (Or.inl ⟨timed, by simpa [joined, sessionOf, timed] using absent⟩)))
  rw [fine] at complaint
  cases complaint

end Making

/-- For every valid file the settings fail in four cases, none of which looks at the file. Where
they are made, the values of the command line stand in front of those of the file, everything else
is the file's, each mode has what belongs to it, and the checks of the session and of the policy
accept what has been made. -/
theorem make_iff_of_valid (file : ConfigFile) (valid : file.validate = .ok ()) (mode : Mode)
    (choices : Choices) (environment : Option String) :
    ((∃ e, make mode choices environment file = .error e) ↔
      (mode = .reliable ∧ choices.wire.getD mode.preferredWire = .framed) ∨
      choices.maxRetries = some 0 ∨
      (mode = .autoCancel ∧ (choices.delay.isNaN = true ∨
        (∃ negative, choices.delay = .infinity negative) ∨
        choices.delay.value < 0 ∨ 2 ^ 64 ≤ choices.delay.value)) ∨
      (mode = .reliable ∧ ∃ p, choices.dropProbability = some p ∧
        (p.isNaN = true ∨ p.value < 0 ∨ 1 < p.value))) ∧
    (∃ s, make mode CommandLine.default.choices environment file = .ok s) ∧
    ∀ s, make mode choices environment file = .ok s →
      s.mode = mode ∧ s.target = chooseTarget choices.server environment ∧
      s.wire = choices.wire.getD mode.preferredWire ∧
      s.policy = { file.reconnect.policy with
        maxRetries := choices.maxRetries.getD file.reconnect.maxRetries } ∧
      s.channel = { Connection.ofTarget s.target with
        timeLimit := some (.ofMillis file.channel.timeLimit.toNat)
        keepAlive := if file.channel.keepAlive then some .default else none } ∧
      s.session.writePoll = .ofMillis file.session.writePoll.toNat ∧
      s.session.channelBuffer = file.session.channelBuffer.toNat ∧
      (mode = .reliable → s.session.mode = .reliable
        ⟨choices.dropProbability.getD file.session.dropProbability,
          choices.seed.or file.session.seed⟩) ∧
      (mode ≠ .reliable → s.session.mode = .plain) ∧
      (mode = .autoCancel → ∃ delay, Duration.ofBinarySeconds? choices.delay = some delay ∧
        s.session.cancelAfter = some delay) ∧
      (mode ≠ .autoCancel → s.session.cancelAfter = none) ∧
      s.session.validate = .ok () ∧ s.policy.validate = .ok () := by
  refine ⟨?fails, ?alone, fun s made => ?_⟩
  case fails =>
    simp only [make_eq_error_iff valid, exists_complaint_iff, Duration.ofBinarySeconds?_eq_none_iff,
      Binary64.isUnit_eq_false_iff]
  case alone =>
    have fine : complaint? mode CommandLine.default.choices = none := by
      cases mode <;> decide +kernel
    exact ⟨_, by rw [make_of_valid valid, fine]⟩
  · obtain ⟨_, _, policy, _, session⟩ := make_eq_ok made
    obtain ⟨rfl, fine⟩ := made_of_valid valid made
    refine ⟨rfl, rfl, rfl, rfl, ?channel, rfl, rfl, ?acknowledged, ?silent, ?timed, ?untimed,
      session, policy⟩
    case channel =>
      simp only [joined, channelFor, Connection.limitedTo, Connection.dropKeepAlive]
      split <;> rfl
    case acknowledged =>
      intro acknowledges
      simp only [joined, sessionOf, if_pos acknowledges, lossFor]
    case silent =>
      intro silent
      simp only [joined, sessionOf, if_neg silent]
    case timed =>
      intro timed
      obtain ⟨delay, known⟩ := Option.ne_none_iff_exists'.mp (cancelAfter_joined timed fine)
      refine ⟨delay, ?_, known⟩
      rwa [joined, sessionOf, if_pos timed] at known
    case untimed =>
      intro untimed
      simp only [joined, sessionOf, if_neg untimed]

/-- A probability of negative zero and a number of attempts from the command line, a seed from the
file. The delay of `2 ^ 64` seconds is refused in the one mode that looks at it. -/
theorem make_iff_of_valid_overridden :
    let file : ConfigFile :=
      { ConfigFile.default with session := { SessionValues.default with seed := some 5 } }
    let choices : Choices :=
      ⟨some "localhost:1", ⟨0x43F0000000000000⟩, some ⟨0x8000000000000000⟩, none, some 3, none⟩
    file.validate = .ok () ∧
      (∃ s, make .reliable choices none file = .ok s ∧ s.policy.maxRetries = 3 ∧
        s.session.mode = .reliable ⟨⟨0x8000000000000000⟩, some 5⟩ ∧
        s.session.cancelAfter = none ∧ s.session.validate = .ok ()) ∧
      ∃ e, make .autoCancel choices none file = .error e := by
  intro file choices
  have valid : file.validate = .ok () := by decide +kernel
  obtain ⟨_, _, made⟩ := make_iff_of_valid file valid .reliable choices none
  obtain ⟨refused, _, _⟩ := make_iff_of_valid file valid .autoCancel choices none
  have accepted : (make .reliable choices none file).isOk = true := by decide +kernel
  have nonneg : 0 ≤ choices.delay.value := by
    rw [← not_lt, Binary64.value_neg_iff]
    decide
  have long : 2 ^ 64 ≤ choices.delay.value :=
    (Binary64.bound_le_value_iff nonneg).mpr (by decide +kernel)
  refine ⟨valid, ?_, refused.mpr (Or.inr (Or.inr (Or.inl ⟨rfl, Or.inr (Or.inr (Or.inr long))⟩)))⟩
  cases result : make .reliable choices none file with
  | error e => simp [result, Except.isOk, Except.toBool] at accepted
  | ok s =>
      obtain ⟨_, _, _, policy, _, _, _, acknowledges, _, _, untimed, session, _⟩ := made s result
      refine ⟨s, rfl, ?_, acknowledges rfl, untimed (by decide), session⟩
      rw [policy]
      rfl

end Settings

end DuplexStream
