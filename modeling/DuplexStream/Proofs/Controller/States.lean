import DuplexStream.Proofs.Controller.Timeline

/-!
# The states of a controller

Every change of state is noted. What a run has noted is a path of the graph `Controller.Shift`,
whose nodes are the controllers as they are in each state, with their counters: the guards of the
decisions are on its edges. A run is followed from the beginning of one attempt to the beginning of
the next one, since the counters of a controller change between two states only there.
-/

namespace DuplexStream

/-- The change of state that an event notes. -/
def Event.shift? : Event → Option (Phase × Phase)
  | .stateChanged source target => some (source, target)
  | _ => none

namespace Phase

/-- An attempt is being made. -/
def isAttempting : Phase → Bool
  | .connecting => true
  | .streaming => true
  | _ => false

/-- Nothing follows. -/
def isLast : Phase → Bool
  | .done => true
  | .failed => true
  | _ => false

theorem not_last_of_attempting {p : Phase} (attempting : p.isAttempting = true) :
    p.isLast = false := by
  cases p <;> simp [isAttempting, isLast] at attempting ⊢

end Phase

namespace Controller

/-- The controller when it has begun its next attempt. -/
def begun (c : Controller) : Controller :=
  { c with state := .connecting, attemptCount := c.attemptCount + 1 }

/-- The controller in another state, remembering so many failures. -/
def shifted (c : Controller) (target : Phase) (failures : UInt32) : Controller :=
  { c with state := target, failureCount := failures }

/-- One change of state, between controllers as they are in each state. -/
inductive Shift (c : Controller) : Controller → Prop
  | opened (connecting : c.state = .connecting) : Shift c (c.shifted .streaming c.failureCount)
  | completed (attempting : c.state.isAttempting = true) : Shift c (c.shifted .done 0)
  | stopped (attempting : c.state.isAttempting = true) : Shift c (c.shifted .done c.failureCount)
  | exhausted (attempting : c.state.isAttempting = true)
      (used : c.policy.maxRetries.toNat ≤ c.attempts) :
      Shift c (c.shifted .failed (c.failureCount + 1))
  | failed (attempting : c.state.isAttempting = true)
      (left : c.attempts < c.policy.maxRetries.toNat) :
      Shift c (c.shifted .backoff (c.failureCount + 1))
  | retried (pausing : c.state = .backoff) (few : c.failures < c.policy.cooldownThreshold.toNat) :
      Shift c c.begun
  | cooling (pausing : c.state = .backoff)
      (many : c.policy.cooldownThreshold.toNat ≤ c.failures) :
      Shift c (c.shifted .cooldown c.failureCount)
  | abandoned (pausing : c.state = .backoff) : Shift c (c.shifted .done c.failureCount)
  | rested (cooling : c.state = .cooldown) : Shift c { c with failureCount := 0 }.begun
  | abandonedCooling (cooling : c.state = .cooldown) : Shift c (c.shifted .done 0)

variable {c c' : Controller}

/-- Nothing follows the last states. -/
theorem Shift.not_last (h : c.Shift c') : c.state.isLast = false := by
  cases h with
  | opened connecting => rw [connecting]; rfl
  | retried pausing => rw [pausing]; rfl
  | cooling pausing => rw [pausing]; rfl
  | abandoned pausing => rw [pausing]; rfl
  | rested cooling => rw [cooling]; rfl
  | abandonedCooling cooling => rw [cooling]; rfl
  | completed attempting | stopped attempting | exhausted attempting | failed attempting =>
      exact Phase.not_last_of_attempting attempting

/-- The changes of state along a path that is entered from a state. -/
def changes : Phase → List Controller → List (Phase × Phase)
  | _, [] => []
  | source, c :: path => (source, c.state) :: changes c.state path

end Controller

open Controller

namespace Run

variable {σ : Type} {frame : RunFrame} {next : AttemptSource σ} {r r' r'' : Run σ}
  {path path' : List Controller} {target : Phase}

/-- The changes of state that a run has noted, in order. -/
def shifts (r : Run σ) : List (Phase × Phase) :=
  r.log.reverse.filterMap Event.shift?

theorem shifts_note (r : Run σ) (events : List Event) :
    (r.note events).shifts = r.shifts ++ events.filterMap Event.shift? := by
  simp [shifts, note]

theorem shifts_note_of_silent (r : Run σ) {events : List Event}
    (silent : events.filterMap Event.shift? = []) : (r.note events).shifts = r.shifts := by
  rw [shifts_note, silent, List.append_nil]

theorem shifts_moveTo (r : Run σ) (target : Phase) :
    (r.moveTo target).shifts = r.shifts ++ [(r.controller.state, target)] :=
  shifts_note r _

theorem shifts_conclude (r : Run σ) (final : Phase) :
    (r.conclude final).shifts = r.shifts ++ [(r.controller.state, final)] := by
  rw [conclude, shifts_note_of_silent _ rfl, shifts_moveTo]

theorem shifts_beginAttempt (frame : RunFrame) (r : Run σ) :
    (r.beginAttempt frame).shifts = r.shifts ++ [(r.controller.state, .connecting)] :=
  (shifts_note_of_silent _ rfl).trans (shifts_moveTo r .connecting)

/-- One run becomes another one by changes of state, which it notes. The path holds the controller
after each of them. -/
inductive Walk : Run σ → List Controller → Run σ → Prop
  | stay {r r' : Run σ} (controller : r'.controller = r.controller)
      (noted : r'.shifts = r.shifts) : Walk r [] r'
  | shift {r r' r'' : Run σ} {path : List Controller}
      (shift : r.controller.Shift r'.controller)
      (noted : r'.shifts = r.shifts ++ [(r.controller.state, r'.controller.state)])
      (walk : Walk r' path r'') : Walk r (r'.controller :: path) r''

section Walks

theorem Walk.one (r' : Run σ) (shift : r.controller.Shift r'.controller)
    (noted : r'.shifts = r.shifts ++ [(r.controller.state, r'.controller.state)]) :
    Walk r [r'.controller] r' :=
  .shift shift noted (.stay rfl rfl)

/-- What stands between two walks changes nothing. -/
theorem Walk.from_same (walk : Walk r' path r'') (controller : r'.controller = r.controller)
    (noted : r'.shifts = r.shifts) : Walk r path r'' := by
  cases walk with
  | stay controller' noted' => exact .stay (controller'.trans controller) (noted'.trans noted)
  | shift shift noted' walk => exact .shift (controller ▸ shift) (noted ▸ controller ▸ noted') walk

theorem Walk.trans (walk : Walk r path r') (walk' : Walk r' path' r'') :
    Walk r (path ++ path') r'' := by
  induction walk with
  | stay controller noted => exact walk'.from_same controller noted
  | shift shift noted _ ih => exact .shift shift noted (ih walk')

theorem Walk.noted (walk : Walk r path r') :
    r'.shifts = r.shifts ++ changes r.controller.state path := by
  induction walk with
  | stay _ noted => rw [noted, changes, List.append_nil]
  | shift _ noted _ ih => rw [ih, noted, List.append_assoc]; rfl

/-- Only the end of a walk can be a last state. -/
theorem Walk.running (walk : Walk r path r') :
    ∀ c ∈ (r.controller :: path).dropLast, c.state.isLast = false := by
  induction walk with
  | stay => exact nofun
  | shift shift _ _ ih =>
      rw [List.dropLast_cons_cons]
      exact List.forall_mem_cons.mpr ⟨shift.not_last, ih⟩

end Walks

/-- Where a cycle leads to: the beginning of the next attempt, or the end. -/
def reached (frame : RunFrame) : Run σ ⊕ RunEnd × Run σ → Run σ
  | .inl r => r.beginAttempt frame
  | .inr (_, r) => r

/-- The next attempt that a cycle leads to, if it does. -/
def nextBegun : Run σ ⊕ RunEnd × Run σ → List Controller
  | .inl r => [r.controller.begun]
  | .inr _ => []

/-- What follows an attempt: the states until the next one or the end, and whether the run is over
then. -/
structure Leg (frame : RunFrame) (r : Run σ) (x : Run σ ⊕ RunEnd × Run σ)
    (path : List Controller) : Prop where
  resting : ∀ c ∈ path, c.state.isAttempting = false
  walk : Walk r (path ++ nextBegun x) (reached frame x)
  finished : ∀ e r', x = .inr (e, r') → (e = .finished ↔ r'.controller.state.isLast = true)

section Legs

variable {x : Run σ ⊕ RunEnd × Run σ} {delay : Duration}

theorem Leg.cons (shift : r.controller.Shift r'.controller)
    (noted : r'.shifts = r.shifts ++ [(r.controller.state, r'.controller.state)])
    (resting : r'.controller.state.isAttempting = false) (leg : Leg frame r' x path) :
    Leg frame r x (r'.controller :: path) where
  resting := List.forall_mem_cons.mpr ⟨resting, leg.resting⟩
  walk := .shift shift noted leg.walk
  finished := leg.finished

/-- The run goes on with its next attempt. -/
theorem Leg.goesOn (shift : r.controller.Shift r'.controller.begun) (noted : r'.shifts = r.shifts)
    (state : r'.controller.state = r.controller.state) : Leg frame r (.inl r') [] where
  resting := nofun
  walk := by
    apply Walk.one (r'.beginAttempt frame) shift
    rw [shifts_beginAttempt, noted, state]
    rfl
  finished := by
    intro e r'' stops
    simp at stops

/-- The run is concluded. -/
theorem Leg.concludes (shift : r.controller.Shift (r'.controller.moveTo target))
    (noted : r'.shifts = r.shifts) (state : r'.controller.state = r.controller.state)
    (last : target.isLast = true) :
    Leg frame r (.inr (.finished, r'.conclude target)) [r'.controller.moveTo target] where
  resting := by
    rw [List.forall_mem_singleton]
    cases target <;> simp [Phase.isLast, Controller.moveTo, Phase.isAttempting] at last ⊢
  walk := by
    apply Walk.one (r'.conclude target) shift
    rw [shifts_conclude, noted, state]
    rfl
  finished := by
    rintro e' r'' ⟨⟩
    exact iff_of_true rfl last

end Legs

section Cycles

/-- The states that the making of an attempt adds. -/
def streamed (c : Controller) (opened : Bool) : List Controller :=
  if opened then [c.moveTo .streaming] else []

end Cycles

end Run

section Sessions

namespace Session

variable {s s' : Session} {limit : Nat}

/-- A session has noted no change of state. -/
def Mute (s : Session) : Prop :=
  s.log.filterMap Event.shift? = []

theorem Mute.note (h : s.Mute) {events : List Event} (silent : events.filterMap Event.shift? = []) :
    (s.note events).Mute := by
  simp only [Mute, Session.note, List.filterMap_append, List.filterMap_reverse, silent,
    List.reverse_nil, List.nil_append]
  exact h

theorem Mute.readStep (h : s.Mute) (move : s.readStep = some s') : s'.Mute := by
  have silent {events : List Event} (own : ∀ e ∈ events, e.ofReader = true) :
      events.filterMap Event.shift? = [] := by
    rw [List.filterMap_eq_nil_iff]
    intro e mem
    have reader := own e mem
    cases e with
    | stateChanged => cases reader
    | _ => rfl
  cases notes_of_readStep move with
  | quietly own log => rw [Mute, log, List.filterMap_append, silent own, List.nil_append, h]
  | firing own log =>
      rw [Mute, log, List.filterMap_cons_none rfl, List.filterMap_append, silent own,
        List.nil_append, h]

theorem Mute.writeStep (h : s.Mute) (move : s.writeStep = some s') : s'.Mute := by
  obtain ⟨w, events, step, rfl⟩ := writeStep_eq_some move
  apply Mute.note (s := { s with writer := w }) h
  cases step <;> rfl

theorem Mute.next (h : s.Mute) (next : Next limit s s') : s'.Mute := by
  cases next with
  | read turn move =>
      have mute := h.readStep move
      exact mute
  | write turn move =>
      have mute := h.writeStep move
      exact mute
  | settle => exact h
  | advance => exact h

end Session

end Sessions

section Scripts

variable (plan : SessionPlan) (around : Surroundings) (limit : Nat)

end Scripts

end DuplexStream
