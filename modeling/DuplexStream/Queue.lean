/-!
# Bounded queues

A `Queue` hands items from senders to one receiver in order. It holds at most `capacity` items. A
send into a full queue does not happen: the sender keeps its item and may try again. Once the
receiver is gone nothing can be sent, and what was queued is gone with it; once the senders are gone
and the items are taken the queue is at its end.
-/

namespace DuplexStream

/-- Items on their way to one receiver, and who still holds an end. -/
structure Queue (α : Type) where
  capacity : Nat
  items : List α
  senders : Nat
  listening : Bool

/-- What a send comes to. -/
inductive Sending (α : Type) where
  | sent (q : Queue α)
  | full
  | closed

/-- What a receive comes to. -/
inductive Receiving (α : Type) where
  | item (a : α) (q : Queue α)
  | empty
  | closed

namespace Queue

variable {α : Type}

/-- The largest capacity, an eighth of the range of a word. -/
def maxCapacity : Nat := UInt64.size / 8 - 1

/-- A queue can have this capacity. -/
def admits (capacity : Nat) : Bool :=
  decide (0 < capacity ∧ capacity ≤ maxCapacity)

/-- An empty queue with one sender. -/
def ofCapacity (capacity : Nat) : Queue α :=
  ⟨capacity, [], 1, true⟩

/-- Tries to send an item. -/
def send (q : Queue α) (a : α) : Sending α :=
  if !q.listening then .closed
  else if q.items.length < q.capacity then .sent { q with items := q.items ++ [a] }
  else .full

/-- Tries to receive an item. -/
def receive (q : Queue α) : Receiving α :=
  match q.items with
  | a :: rest => .item a { q with items := rest }
  | [] => if q.senders = 0 then .closed else .empty

/-- One more sender. -/
def addSender (q : Queue α) : Queue α :=
  { q with senders := q.senders + 1 }

/-- One sender less. -/
def dropSender (q : Queue α) : Queue α :=
  { q with senders := q.senders - 1 }

/-- The receiver goes, and what is still queued with it. -/
def hangUp (q : Queue α) : Queue α :=
  { q with items := [], listening := false }

/-- What a send comes to, case by case. -/
theorem send_cases (q : Queue α) (a : α) :
    (q.listening = false ∧ q.send a = .closed) ∨
    (q.listening = true ∧ q.items.length < q.capacity ∧
      q.send a = .sent { q with items := q.items ++ [a] }) ∨
    (q.listening = true ∧ q.capacity ≤ q.items.length ∧ q.send a = .full) := by
  cases hl : q.listening with
  | false => simp [send, hl]
  | true =>
      by_cases hr : q.items.length < q.capacity
      · simp [send, hl, hr]
      · simp [send, hl, hr]
        omega

/-- What a receive comes to, case by case. -/
theorem receive_cases (q : Queue α) :
    (∃ a rest, q.items = a :: rest ∧ q.receive = .item a { q with items := rest }) ∨
    (q.items = [] ∧ q.senders = 0 ∧ q.receive = .closed) ∨
    (q.items = [] ∧ 0 < q.senders ∧ q.receive = .empty) := by
  cases hi : q.items with
  | cons a rest => simp [receive, hi]
  | nil =>
      by_cases hs : q.senders = 0
      · simp [receive, hi, hs]
      · simp [receive, hi, hs]
        omega

end Queue

end DuplexStream
