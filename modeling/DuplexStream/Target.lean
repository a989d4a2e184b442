import DuplexStream.Duration
import DuplexStream.Outcome
import DuplexStream.Target.Address
import DuplexStream.Text.Blank
import DuplexStream.Text.SmallLetters

/-!
# Targets

Where the client connects. `chooseTarget` chooses between what was asked for, the environment and
a default; text of blanks alone counts as nothing. `Connection.ofTarget` makes an address of a
target: a scheme is put in front unless it has one.
-/

namespace DuplexStream

/-- Where the client connects when nothing is said. -/
def defaultTarget : String := "[::1]:50051"

/-- The first of the given texts that is not blank, without the blanks at its ends. -/
def chooseTarget (explicit environment : Option String) : String :=
  let given := [explicit, environment].filterMap id
  ((given.map Text.trim).find? fun s => !s.isEmpty).getD defaultTarget

/-- How an idle connection is kept open. -/
structure KeepAlive where
  interval : Duration
  timeout : Duration
  whileIdle : Bool
  deriving DecidableEq

/-- The usual intervals. -/
def KeepAlive.default : KeepAlive := ⟨.ofSeconds 10, .ofSeconds 20, true⟩

/-- How a connection is made. -/
structure Connection where
  address : String
  keepAlive : Option KeepAlive
  timeLimit : Option Duration
  encrypted : Bool
  deriving DecidableEq

/-- The characters contain `://`. -/
def hasScheme : List Char → Bool
  | ':' :: '/' :: '/' :: _ => true
  | _ :: cs => hasScheme cs
  | [] => false

/-- The text with a scheme in front, unless it is empty or has one. -/
def addressOf (s : String) : String :=
  if s.isEmpty || hasScheme s.toList then s else "http://" ++ s

/-- The address asks for an encrypted connection: in small letters it starts with `https://`. -/
def asksForEncryption (address : String) : Bool :=
  "https://".toList.isPrefixOf (Text.inSmallLetters address.toList)

namespace Connection

/-- The connection to a target with the usual settings. -/
def ofTarget (target : String) : Connection :=
  let address := addressOf (Text.trim target)
  ⟨address, some .default, some (.ofSeconds 30), asksForEncryption address⟩

/-- The connection without keep-alive. -/
def dropKeepAlive (c : Connection) : Connection :=
  { c with keepAlive := none }

/-- The connection with another time limit for connecting. -/
def limitedTo (c : Connection) (d : Duration) : Connection :=
  { c with timeLimit := some d }

/-- What opening the connection comes to when nobody listens at the address: an address that is no
URI is refused as such. -/
def unreachable (c : Connection) : StreamError :=
  if Address.isValid c.address then .connect "transport error"
  else .invalidAddress "invalid URI"

end Connection

end DuplexStream
