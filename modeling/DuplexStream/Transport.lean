import DuplexStream.Outcome
import DuplexStream.Script

/-!
# Scripted transport

A `ScriptedTransport` plays one script per call, first come first served. It records when each call
happened and keeps what belongs to each stream that was opened, in the order of the openings; a
call that fails has no place among the streams.
-/

namespace DuplexStream

/-- Scripts still to be played, when calls happened, and what belongs to each opened stream. -/
structure ScriptedTransport (σ : Type) where
  scripts : List CallScript
  openedAt : List Nat
  streams : List σ

namespace ScriptedTransport

variable {σ : Type}

/-- A transport before its first call. -/
def ofScripts (scripts : List CallScript) : ScriptedTransport σ :=
  ⟨scripts, [], []⟩

/-- How the transport is called in logs. -/
def target : String := "memory"

/-- The error of a call for which nothing is left. -/
def exhausted : StreamError := .connect "memory transport has no script left"

/-- One more script, behind the others. -/
def push (t : ScriptedTransport σ) (s : CallScript) : ScriptedTransport σ :=
  { t with scripts := t.scripts ++ [s] }

/-- A call. Its script is used up whether the call succeeds or not. -/
def call (t : ScriptedTransport σ) (now : Nat) :
    Except StreamError StreamScript × ScriptedTransport σ :=
  let called := { t with openedAt := t.openedAt ++ [now] }
  match t.scripts with
  | [] => (.error exhausted, called)
  | .refuse reason :: rest => (.error (.connect reason), { called with scripts := rest })
  | .reject s :: rest => (.error (.rejected s), { called with scripts := rest })
  | .stream s :: rest => (.ok s, { called with scripts := rest })

/-- What belongs to the stream that was opened last. -/
def attach (t : ScriptedTransport σ) (s : σ) : ScriptedTransport σ :=
  { t with streams := t.streams ++ [s] }

end ScriptedTransport

end DuplexStream
