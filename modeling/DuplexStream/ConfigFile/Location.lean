import DuplexStream.ConfigFile.Reading
import DuplexStream.Text.Utf8

/-!
# Where the configuration file is

A file that is asked for has to be there. The file at the default place is used if it is a regular
file, and then it has to be readable and well-formed too.
-/

namespace DuplexStream

/-- What is at a path. -/
inductive FileContent where
  | missing
  | directory
  | bytes (contents : List UInt8)
  deriving DecidableEq

/-- There is a regular file. -/
def FileContent.isFile : FileContent → Bool
  | .bytes _ => true
  | _ => false

/-- The text of a regular file, if its bytes are text. -/
def FileContent.text? : FileContent → Option String
  | .bytes contents => Text.Utf8.text? contents
  | _ => none

/-- A path with one more part. No second slash follows one. -/
def joinPath (base part : String) : String :=
  if base.isEmpty || base.toList.getLast? == some '/' then base ++ part
  else base ++ "/" ++ part

/-- Why a configuration file cannot be loaded. -/
inductive LoadError where
  | unreadable (path : String)
  | invalid (path : String) (reason : ConfigFileError)
  deriving DecidableEq

/-- The complaint in words. -/
def LoadError.message : LoadError → String
  | .unreadable path => "failed to read config from " ++ path
  | .invalid path _ => "invalid config in " ++ path

namespace ConfigFile

/-- The default place of the file: below the directory for configuration files, if one is named,
else below the home directory. -/
def defaultPath (configHome : Option String) (home : String) : String :=
  let base := configHome.getD (joinPath home ".config")
  joinPath (joinPath base "tidal") "client.toml"

/-- Reads the file at a path. -/
def readFrom (path : String) (file : FileContent) : Except LoadError ConfigFile :=
  match file.text? with
  | none => .error (.unreadable path)
  | some text =>
    match parse text with
    | .ok c => .ok c
    | .error e => .error (.invalid path e)

/-- Loads the file at a path, if there is one, else the file at the default place. -/
def load (files : String → FileContent) (explicit : Option String) (defaultPlace : String) :
    Except LoadError ConfigFile :=
  match explicit with
  | some path => readFrom path (files path)
  | none =>
    if (files defaultPlace).isFile then readFrom defaultPlace (files defaultPlace)
    else .ok default

end ConfigFile

end DuplexStream
