import DuplexStream.Status

/-!
# How an attempt ends

An `Ending` is what the session saw: the peer closed, a status arrived, a request was made
here. `Ending.outcome` turns it into an `Outcome`. A close by the peer always counts as completion;
after a local request every other ending counts as intended.
-/

namespace DuplexStream

/-- Why a stream could not be used. -/
inductive StreamError where
  | invalidAddress (reason : String)
  | connect (reason : String)
  | rejected (status : Status)
  | closed
  deriving DecidableEq

/-- The error in words, where the words are fixed here. -/
def StreamError.message : StreamError → String
  | .invalidAddress reason => "invalid server address: " ++ reason
  | .connect reason => "connection failed: " ++ reason
  | .rejected s => "stream start failed: " ++ s.detail
  | .closed => "stream closed"

/-- What a session saw at its end. -/
inductive Ending where
  | remoteClosed
  | localCancel
  | status (s : Status)
  | connect (reason : String)
  | taskCancelled
  | unexpected (reason : String)
  deriving DecidableEq

namespace Ending

/-- What is told about a termination besides its outcome. -/
def detail? : Ending → Option String
  | remoteClosed => none
  | localCancel => none
  | taskCancelled => none
  | status s => some s.detail
  | connect reason => some reason
  | unexpected reason => some reason

/-- The termination of an attempt whose stream could not be used. -/
def ofError : StreamError → Ending
  | .connect reason => connect reason
  | .rejected s => status s
  | .invalidAddress reason => unexpected (StreamError.message (.invalidAddress reason))
  | .closed => unexpected (StreamError.message .closed)

end Ending

/-- The kinds of endings that are no completion. -/
inductive Failure where
  | intentionalCancel
  | cancelled
  | transportUnavailable
  | deadlineExceeded
  | otherRpcError
  | localTaskCancelled
  | unexpectedError
  deriving DecidableEq

namespace Failure

/-- The name of a kind. -/
def name : Failure → String
  | intentionalCancel => "intentional_cancel"
  | cancelled => "cancelled"
  | transportUnavailable => "transport_unavailable"
  | deadlineExceeded => "deadline_exceeded"
  | otherRpcError => "other_rpc_error"
  | localTaskCancelled => "local_task_cancelled"
  | unexpectedError => "unexpected_error"

/-- The connection is at fault, so a short pause is enough. -/
def isConnection : Failure → Bool
  | transportUnavailable => true
  | deadlineExceeded => true
  | _ => false

/-- The kind of a status that nobody asked for here. -/
def ofStatus (s : Status) : Failure :=
  match s.code with
  | .cancelled => cancelled
  | .unavailable => transportUnavailable
  | .deadlineExceeded => deadlineExceeded
  | _ => otherRpcError

end Failure

/-- How an attempt ended. -/
inductive Outcome where
  | completed
  | failed (kind : Failure)
  deriving DecidableEq

namespace Outcome

/-- The name of an outcome. -/
def name : Outcome → String
  | completed => "completed"
  | failed kind => kind.name

/-- The kind of an ending that is no completion. -/
def failure? : Outcome → Option Failure
  | completed => none
  | failed kind => some kind

/-- The outcome with a name. -/
def ofName? (s : String) : Option Outcome :=
  [completed, failed .intentionalCancel, failed .cancelled, failed .transportUnavailable,
    failed .deadlineExceeded, failed .otherRpcError, failed .localTaskCancelled,
    failed .unexpectedError].find? fun o => o.name == s

end Outcome

/-- The outcome of a termination, given whether a cancel had been requested. -/
def Ending.outcome (t : Ending) (cancelRequested : Bool) : Outcome :=
  match t with
  | .remoteClosed => .completed
  | .localCancel => .failed .intentionalCancel
  | .status s => .failed (if cancelRequested then .intentionalCancel else .ofStatus s)
  | .connect _ => .failed (if cancelRequested then .intentionalCancel else .transportUnavailable)
  | .taskCancelled => .failed (if cancelRequested then .intentionalCancel else .localTaskCancelled)
  | .unexpected _ => .failed (if cancelRequested then .intentionalCancel else .unexpectedError)

/-- What one attempt amounted to. The time is in ticks since the stream opened. -/
structure Report where
  attempt : Nat
  outcome : Outcome
  messageCount : Nat
  acksSent : Nat
  drops : Nat
  duplicates : Nat
  elapsed : Nat
  detail : Option String
  deriving DecidableEq

namespace Report

/-- The report of an attempt that never had a stream. -/
def unopened (attempt : Nat) (outcome : Outcome) (detail : Option String) : Report :=
  ⟨attempt, outcome, 0, 0, 0, 0, 0, detail⟩

/-- The report of an attempt that a shutdown kept from opening. -/
def ofShutdown (attempt : Nat) : Report :=
  unopened attempt (.failed .localTaskCancelled) none

/-- The report of an attempt whose stream could not be opened. -/
def ofOpenError (attempt : Nat) (e : StreamError) : Report :=
  unopened attempt ((Ending.ofError e).outcome false) (Ending.ofError e).detail?

end Report

end DuplexStream
