import DuplexStream.Text.Numeral
import DuplexStream.Wire

/-!
# The command line

Arguments are read from left to right. An option with its value attached is settled at once. An
option without one waits: it takes the next argument unless that is an option itself, and it is
settled when the next option comes or the arguments end. Whatever is unknown is refused on sight,
before a waiting option is settled.
-/

namespace DuplexStream

/-- What the command line says apart from the mode: an absent value leaves the decision to the
configuration file. -/
structure Choices where
  server : Option String
  delay : Binary64
  dropProbability : Option Binary64
  seed : Option UInt64
  maxRetries : Option UInt32
  wire : Option Wire
  deriving DecidableEq

/-- What the command line says. -/
structure CommandLine where
  mode : String
  choices : Choices
  config : Option String
  verbose : Bool
  deriving DecidableEq

/-- An empty command line: three seconds in the mode with a timer. -/
def CommandLine.default : CommandLine :=
  { mode := "auto_cancel"
    choices := ⟨none, ⟨0x4008000000000000⟩, none, none, none, none⟩
    config := none
    verbose := false }

/-- Why a command line is not carried out. A request for help is one of the reasons. -/
inductive UsageError where
  | displayHelp
  | unknownArgument
  | missingValue
  | invalidValue
  | repeated
  | unneededValue
  deriving DecidableEq

/-- An option that takes a value. -/
inductive Setting where
  | mode
  | delay
  | server
  | dropProbability
  | seed
  | maxRetries
  | wire
  | config
  deriving DecidableEq

/-- An option. -/
inductive Switch where
  | setting (s : Setting)
  | verbose
  | help
  deriving DecidableEq

namespace Switch

/-- The option with a long name. -/
def ofLongName? (name : String) : Option Switch :=
  match name with
  | "mode" => some (.setting .mode)
  | "delay" => some (.setting .delay)
  | "server" => some (.setting .server)
  | "drop-probability" => some (.setting .dropProbability)
  | "seed" => some (.setting .seed)
  | "max-retries" => some (.setting .maxRetries)
  | "wire" => some (.setting .wire)
  | "config" => some (.setting .config)
  | "verbose" => some .verbose
  | "help" => some .help
  | _ => none

/-- The option with a short name. -/
def ofShortName? : Char → Option Switch
  | 's' => some (.setting .server)
  | 'v' => some .verbose
  | 'h' => some .help
  | _ => none

end Switch

/-- The command line with the value of an option. -/
def CommandLine.set (c : CommandLine) (s : Setting) (value : String) :
    Except UsageError CommandLine :=
  let o := c.choices
  match s with
  | .mode => .ok { c with mode := value }
  | .server => .ok { c with choices := { o with server := some value } }
  | .config =>
    if value.isEmpty then .error .missingValue else .ok { c with config := some value }
  | .delay =>
    match Text.readReal value with
    | some x => .ok { c with choices := { o with delay := x } }
    | none => .error .invalidValue
  | .dropProbability =>
    match Text.readReal value with
    | some x => .ok { c with choices := { o with dropProbability := some x } }
    | none => .error .invalidValue
  | .seed =>
    match Text.readWord value with
    | some n => .ok { c with choices := { o with seed := some n } }
    | none => .error .invalidValue
  | .maxRetries =>
    match Text.readCount value with
    | some n => .ok { c with choices := { o with maxRetries := some n } }
    | none => .error .invalidValue
  | .wire =>
    match Wire.ofName value with
    | .ok w => .ok { c with choices := { o with wire := some w } }
    | .error _ => .error .invalidValue

/-- An option that is not settled yet, with the value it has taken. -/
structure Waiting where
  setting : Setting
  value : Option String
  deriving DecidableEq

/-- A command line while it is read: what is settled, the options that came, and the one that
waits. -/
structure ArgumentReader where
  settled : CommandLine
  given : List Switch
  waiting : Option Waiting

namespace ArgumentReader

/-- Nothing has been read. -/
def start : ArgumentReader := ⟨.default, [], none⟩

/-- An option comes. No option comes twice. -/
def enter (r : ArgumentReader) (s : Switch) : Except UsageError ArgumentReader :=
  if r.given.contains s then .error .repeated else .ok { r with given := s :: r.given }

/-- Settles an option with its value. -/
def store (r : ArgumentReader) (s : Setting) (value : String) : Except UsageError ArgumentReader :=
  match r.enter (.setting s) with
  | .error e => .error e
  | .ok r' =>
    match r'.settled.set s value with
    | .ok c => .ok { r' with settled := c }
    | .error e => .error e

/-- Settles the option that waits, if there is one. -/
def settle (r : ArgumentReader) : Except UsageError ArgumentReader :=
  match r.waiting with
  | none => .ok r
  | some ⟨_, none⟩ => .error .missingValue
  | some ⟨s, some value⟩ => { r with waiting := none }.store s value

/-- An option that takes a value, which may be attached. -/
def option (r : ArgumentReader) (s : Setting) (attached : Option String) :
    Except UsageError ArgumentReader :=
  match r.settle with
  | .error e => .error e
  | .ok r' =>
    match attached with
    | some value => r'.store s value
    | none => .ok { r' with waiting := some ⟨s, none⟩ }

/-- The option that asks for more to be told. -/
def verbose (r : ArgumentReader) : Except UsageError ArgumentReader :=
  match r.settle with
  | .error e => .error e
  | .ok r' =>
    match r'.enter .verbose with
    | .ok r'' => .ok { r'' with settled := { r''.settled with verbose := true } }
    | .error e => .error e

/-- The option that asks for help. -/
def help (r : ArgumentReader) : Except UsageError ArgumentReader :=
  match r.settle with
  | .error e => .error e
  | .ok _ => .error .displayHelp

/-- An option by its long name, with what stands behind an equals sign. -/
def long (r : ArgumentReader) (name : String) (attached : Option String) :
    Except UsageError ArgumentReader :=
  match Switch.ofLongName? name, attached with
  | none, _ => .error .unknownArgument
  | some (.setting s), _ => r.option s attached
  | some _, some _ => .error .unneededValue
  | some .verbose, none => r.verbose
  | some .help, none => r.help

/-- The value attached to a short option, if there is one. An equals sign in front is not part of
it. -/
def attachedValue : List Char → Option String
  | [] => none
  | '=' :: rest => some (String.ofList rest)
  | rest => some (String.ofList rest)

/-- Options by their short names, one behind the other. One that takes a value ends them. -/
def shorts (r : ArgumentReader) : List Char → Except UsageError ArgumentReader
  | [] => .ok r
  | c :: rest =>
    match Switch.ofShortName? c with
    | none => .error .unknownArgument
    | some (.setting s) => r.option s (attachedValue rest)
    | some .help => r.help
    | some .verbose =>
      match r.verbose with
      | .ok r' => r'.shorts rest
      | .error e => .error e

/-- An argument that is no option: the value of an option that waits for one. -/
def plain (r : ArgumentReader) (value : String) : Except UsageError ArgumentReader :=
  match r.waiting with
  | some ⟨s, none⟩ => .ok { r with waiting := some ⟨s, some value⟩ }
  | _ => .error .unknownArgument

/-- One argument. -/
def argument (r : ArgumentReader) (text : String) : Except UsageError ArgumentReader :=
  match text.toList with
  | '-' :: '-' :: rest =>
    let name := String.ofList (rest.takeWhile (· != '='))
    match rest.dropWhile (· != '=') with
    | [] => r.long name none
    | _ :: value => r.long name (some (String.ofList value))
  | ['-'] => r.plain text
  | '-' :: rest => r.shorts rest
  | _ => r.plain text

/-- All arguments. Behind two dashes nothing may follow. -/
def arguments (r : ArgumentReader) : List String → Except UsageError ArgumentReader
  | [] => r.settle
  | text :: rest =>
    if text == "--" then (if rest.isEmpty then r.settle else .error .unknownArgument)
    else
      match r.argument text with
      | .ok r' => r'.arguments rest
      | .error e => .error e

end ArgumentReader

/-- Reads the arguments of the program. -/
def CommandLine.parse (args : List String) : Except UsageError CommandLine :=
  match ArgumentReader.start.arguments args with
  | .ok r => .ok r.settled
  | .error e => .error e

end DuplexStream
