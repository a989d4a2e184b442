import DuplexStream.Program

/-!
# The command

Reads what the program needs from the world, runs it, and tells on the error stream what it noted.
-/

namespace DuplexStream

/-- A detail in one word. -/
def Detail.line : Detail → String
  | .number n => toString n
  | .text s => s

/-- An event in one line. -/
def Event.line (e : Event) : String :=
  let details := e.details.map fun (name, d) => " " ++ name ++ "=" ++ d.line
  e.severity.name ++ " " ++ e.text ++ String.join details

namespace Program

/-- What is at a path. What cannot be read counts as missing. -/
def contentAt (path : String) : IO FileContent := do
  try
    let contents ← IO.FS.readBinFile path
    return .bytes contents.toList
  catch _ => return .missing

/-- The environment of the program. Only two paths matter: the default place of the configuration
file and the one named by the arguments. -/
def findEnvironment (args : List String) : IO Environment := do
  let server ← IO.getEnv "GRPC_SERVER_ADDRESS"
  let configHome ← IO.getEnv "XDG_CONFIG_HOME"
  let home ← IO.getEnv "HOME"
  let defaultPlace := ConfigFile.defaultPath configHome (home.getD "")
  let named := match CommandLine.parse args with
    | .ok line => line.config
    | .error _ => none
  let place := named.getD defaultPlace
  let content ← contentAt place
  return ⟨server, defaultPlace, fun path => if path == place then content else .missing⟩

end Program

end DuplexStream

/-- Runs the program. -/
def main (args : List String) : IO UInt32 := do
  let around ← DuplexStream.Program.findEnvironment args
  let run := DuplexStream.Program.run args around
  for e in run.events do
    IO.eprintln e.line
  for complaint in run.complaint do
    IO.eprintln complaint
  return UInt32.ofNat run.status
