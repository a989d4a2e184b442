import DuplexStream.Client
import DuplexStream.Launch

/-!
# The program

The program makes settings of its arguments and carries them out. There is no network behind it, so
nobody listens at any address and every call fails. Its exit status says how far it got: 2 for a
command line that cannot be read, 1 for settings that cannot be made, 101 for a channel that cannot
be made, else 0. Asking for help is no failure.
-/

namespace DuplexStream

/-- What the program finds around it. -/
structure Environment where
  server : Option String
  configPath : String
  files : String → FileContent

/-- What the program did: its exit status, a complaint, and what it noted. -/
structure ProgramRun where
  status : Nat
  complaint : Option String
  events : List Event

namespace Program

/-- The exit status of a client that does not start. -/
def launchStatus {φ : Type} : LaunchError φ → Nat
  | .usage .displayHelp => 0
  | .usage _ => 2
  | .mode _ => 1
  | .file _ => 1
  | .settings _ => 1

/-- The exit status of a client that has ended. -/
def endStatus : ClientEnd → Nat
  | .unserviceable => 101
  | _ => 0

/-- The complaint about a command line. -/
def usageComplaint : UsageError → String
  | .displayHelp => "usage: [OPTIONS]"
  | .unknownArgument => "unexpected argument"
  | .missingValue => "a value is required"
  | .invalidValue => "invalid value"
  | .repeated => "an option cannot be used multiple times"
  | .unneededValue => "unexpected value"

/-- The complaint of a client that does not start. -/
def complaint : LaunchError LoadError → String
  | .usage e => usageComplaint e
  | .mode name => Mode.unknownMessage name
  | .file e => e.message
  | .settings e => e.message

/-- Every pause that a run can make ends before this tick. -/
def horizon (p : RetryPolicy) : Nat :=
  (max 1 p.maxRetries.toNat) * (p.transportBackoff.ticks + p.otherBackoff.ticks + p.cooldown.ticks)

/-- Carries out settings when nobody listens. -/
def runSettings (s : Settings) : ClientRun Unit :=
  Client.run s (.plain s.channel.address false none (horizon s.policy))
    (AttemptSource.unreachable s.session s.channel) ()

/-- Runs the program. -/
def run (args : List String) (around : Environment) : ProgramRun :=
  let load (explicit : Option String) : Except LoadError ConfigFile :=
    ConfigFile.load around.files explicit around.configPath
  match Settings.ofArguments args around.server load with
  | .error e => ⟨launchStatus e, some (complaint e), []⟩
  | .ok s =>
    let client := runSettings s
    ⟨endStatus client.finish, none, client.events⟩

end Program

end DuplexStream
