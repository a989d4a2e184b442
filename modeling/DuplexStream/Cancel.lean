/-!
# Cancel handles

A request to cancel is recorded and signalled: the record tells later that the end was intended,
the signal wakes whoever waits. Handles cloned from one another share one `CancelFlag`; a
`CancelRegistry` holds the flags of several families and says to which family each handle belongs.
-/

namespace DuplexStream

/-- What the handles of one family share. -/
structure CancelFlag where
  requested : Bool
  signalled : Bool
  deriving DecidableEq

namespace CancelFlag

/-- Nobody has cancelled. -/
def clear : CancelFlag := ⟨false, false⟩

/-- Records the request, then signals it. -/
def cancel (_ : CancelFlag) : CancelFlag := ⟨true, true⟩

end CancelFlag

/-- Handles in the order in which they were made: the flags of the families, and the family of
each handle. -/
structure CancelRegistry where
  families : List CancelFlag
  handles : List Nat
  deriving DecidableEq

/-- What can be done with handles. A handle is named by its place in the list. -/
inductive CancelStep where
  | fresh
  | clone (handle : Nat)
  | cancel (handle : Nat)
  deriving DecidableEq

namespace CancelRegistry

/-- A single handle. -/
def single : CancelRegistry := ⟨[.clear], [0]⟩

/-- Does one thing. A handle that does not exist is left alone. -/
def step (r : CancelRegistry) : CancelStep → CancelRegistry
  | .fresh => ⟨r.families ++ [.clear], r.handles ++ [r.families.length]⟩
  | .clone h =>
    match r.handles[h]? with
    | some family => { r with handles := r.handles ++ [family] }
    | none => r
  | .cancel h =>
    match r.handles[h]? with
    | some family => { r with families := r.families.modify family CancelFlag.cancel }
    | none => r

/-- The flag of a handle. -/
def flag? (r : CancelRegistry) (handle : Nat) : Option CancelFlag :=
  match r.handles[handle]? with
  | some family => r.families[family]?
  | none => none

/-- For each handle, whether its family has been cancelled. -/
def requested (r : CancelRegistry) : List Bool :=
  r.handles.map fun family => (r.families[family]?.map CancelFlag.requested).getD false

end CancelRegistry

end DuplexStream
