import DuplexStream.ConfigFile.Location
import DuplexStream.Settings

/-!
# From arguments to settings

The command line is read first, then the mode, then the configuration file, and the settings are
made last. How the file is found is left open, so the complaints about it are of any type.
-/

namespace DuplexStream

/-- Why the client does not start. -/
inductive LaunchError (φ : Type) where
  | usage (e : UsageError)
  | mode (name : String)
  | file (e : φ)
  | settings (e : SettingsError)
  deriving DecidableEq

/-- The settings of the arguments. The file is loaded only when the command line and the mode are in
order; it may be named on the command line. -/
def Settings.ofArguments {φ : Type} (args : List String) (environment : Option String)
    (file : Option String → Except φ ConfigFile) : Except (LaunchError φ) Settings :=
  match CommandLine.parse args with
  | .error e => .error (.usage e)
  | .ok line =>
    match Mode.ofName? line.mode with
    | none => .error (.mode line.mode)
    | some mode =>
      match file line.config with
      | .error e => .error (.file e)
      | .ok file =>
        match Settings.make mode line.choices environment file with
        | .error e => .error (.settings e)
        | .ok s => .ok s

end DuplexStream
