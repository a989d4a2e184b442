import DuplexStream.CommandLine
import DuplexStream.ConfigFile.Basic
import DuplexStream.Mode
import DuplexStream.Target

/-!
# Settings of a run

The settings join the mode, the command line, the environment and the configuration file. What the
command line says goes before what the file says. The first complaint ends the making of them.
-/

namespace DuplexStream

/-- Everything a run is told. -/
structure Settings where
  mode : Mode
  target : String
  wire : Wire
  channel : Connection
  session : SessionPlan
  policy : RetryPolicy
  deriving DecidableEq

/-- Why settings cannot be made. -/
inductive SettingsError where
  | needsEnvelopeWire
  | config (e : InvalidSetting)
  deriving DecidableEq

/-- The complaint in words. -/
def SettingsError.message : SettingsError → String
  | .needsEnvelopeWire => "reliable mode needs the envelope wire to send acks"
  | .config e => e.message

namespace Settings

/-- The connection: the time limit and the keep-alive are up to the file. -/
def channelFor (target : String) (file : ConfigFile) : Connection :=
  let channel :=
    (Connection.ofTarget target).limitedTo
      (.ofMillis file.channel.timeLimit.toNat)
  if file.channel.keepAlive then channel else channel.dropKeepAlive

/-- The policy: the number of attempts may be said on the command line. -/
def policyFor (choices : Choices) (file : ConfigFile) : RetryPolicy :=
  let policy := file.reconnect.policy
  { policy with maxRetries := choices.maxRetries.getD policy.maxRetries }

/-- The acknowledgements: the probability and the seed may be said on the command line. -/
def lossFor (choices : Choices) (file : ConfigFile) : LossModel :=
  ⟨choices.dropProbability.getD file.session.dropProbability,
    choices.seed.or file.session.seed⟩

/-- The session: it has a timer in one mode and acknowledgements in another. -/
def sessionFor (mode : Mode) (choices : Choices) (file : ConfigFile) :
    Except InvalidSetting SessionPlan :=
  let base : SessionPlan :=
    ⟨.plain, none, .ofMillis file.session.writePoll.toNat, file.session.channelBuffer.toNat⟩
  match mode with
  | .autoCancel => base.cancelledAfter choices.delay
  | .simple => .ok base
  | .reliable => .ok { base with mode := .reliable (lossFor choices file) }

/-- Makes the settings. -/
def make (mode : Mode) (choices : Choices) (environment : Option String)
    (file : ConfigFile) : Except SettingsError Settings :=
  let target := chooseTarget choices.server environment
  let wire := choices.wire.getD mode.preferredWire
  let policy := policyFor choices file
  if wire = .framed ∧ mode = .reliable then .error .needsEnvelopeWire
  else
    match policy.validate with
    | .error e => .error (.config e)
    | .ok _ =>
      match sessionFor mode choices file with
      | .error e => .error (.config e)
      | .ok session =>
        match session.validate with
        | .error e => .error (.config e)
        | .ok _ => .ok ⟨mode, target, wire, channelFor target file, session, policy⟩

end Settings

end DuplexStream
