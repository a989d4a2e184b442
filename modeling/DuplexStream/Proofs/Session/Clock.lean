import DuplexStream.Proofs.Session.Unread

/-!
# Requests and timers

Of the requests that are planned for a session only the first one matters, and it matters only if it
arrives before the limit of the clock. `Session.request?` is this request; it stays the same until
it arrives. The clock passes over no timer, so a wait never lasts longer than it should.
-/

namespace DuplexStream.Session

/-- When a planned request arrives: at the next turn of the surroundings that is not before its
tick. -/
def arrival (s : Session) (tick : Nat) : Nat :=
  max tick (if s.settled then s.now + 1 else s.now)

/-- The earlier of a cancel and a shutdown. At one tick the cancel goes first. -/
def earlier (cancel shutdown : Option Nat) : Option (Ending × Nat) :=
  match cancel, shutdown with
  | some c, some d => if c ≤ d then some (.localCancel, c) else some (.taskCancelled, d)
  | some c, none => some (.localCancel, c)
  | none, some d => some (.taskCancelled, d)
  | none, none => none

/-- The first planned request that arrives before the limit of the clock, and when. -/
def request? (limit : Nat) (s : Session) : Option (Ending × Nat) :=
  (earlier (s.cancelAt.map s.arrival) (s.shutdownAt.map s.arrival)).filter fun r =>
    decide (r.2 < limit)

/-- The clock of a session: it does not pass the limit, nor the end of a wait. A request that has
been noted ends the read loop. -/
structure Timely (limit : Nat) (s : Session) : Prop where
  early : s.now ≤ limit
  waking : ∀ tick, s.reading = .receiving → s.inbound.wake = some tick →
    s.now ≤ tick ∧ s.inbound.steps ≠ []
  asleep : ∀ a, s.reading = .queueing a → s.inbound.wake = none
  flag : s.cancel.requested = s.cancel.signalled
  asked : ∀ t, s.reading = .ended t → t ≠ .localCancel → s.cancel.requested = false

variable {limit : Nat} {s s' : Session}

section Requests

theorem le_arrival (s : Session) (tick : Nat) : s.now ≤ s.arrival tick := by
  unfold arrival
  split <;> omega

theorem earlier_eq_some {cancel shutdown : Option Nat} {t : Ending} {tick : Nat}
    (h : earlier cancel shutdown = some (t, tick)) :
    t = .localCancel ∧ cancel = some tick ∨ t = .taskCancelled ∧ shutdown = some tick := by
  cases cancel with
  | none => cases shutdown <;> simp_all [earlier]
  | some c =>
      cases shutdown with
      | none => simp_all [earlier]
      | some d =>
          simp only [earlier] at h
          split at h <;> simp_all

theorem earlier_of_cancel {c : Nat} {shutdown : Option Nat}
    (first : ∀ d, shutdown = some d → c ≤ d) :
    earlier (some c) shutdown = some (.localCancel, c) := by
  cases shutdown with
  | none => rfl
  | some d => simp [earlier, first d rfl]

theorem earlier_of_shutdown {d : Nat} {cancel : Option Nat} (first : ∀ c, cancel = some c → d < c) :
    earlier cancel (some d) = some (.taskCancelled, d) := by
  cases cancel with
  | none => rfl
  | some c => simp [earlier, Nat.not_le.mpr (first c rfl)]

/-- A request that arrives was planned, and arrives neither before now nor beyond the limit. -/
theorem request_eq_some {r : Ending × Nat} (h : s.request? limit = some r) :
    s.now ≤ r.2 ∧ r.2 < limit ∧ (r.1 = .localCancel ∨ r.1 = .taskCancelled) := by
  simp only [request?, Option.filter_eq_some_iff, decide_eq_true_eq] at h
  obtain ⟨first, early⟩ := h
  rcases earlier_eq_some first with ⟨kind, planned⟩ | ⟨kind, planned⟩
  · obtain ⟨tick, _, same⟩ := Option.map_eq_some_iff.mp planned
    exact ⟨same ▸ le_arrival s tick, early, Or.inl kind⟩
  · obtain ⟨tick, _, same⟩ := Option.map_eq_some_iff.mp planned
    exact ⟨same ▸ le_arrival s tick, early, Or.inr kind⟩

theorem request_any_lt_now (limit : Nat) (s : Session) :
    (s.request? limit).any (fun r => decide (r.2 < s.now)) = false := by
  cases h : s.request? limit with
  | none => rfl
  | some r =>
      have := (request_eq_some h).1
      simpa using this

theorem stop_eq_none_iff : s.stop? = none ↔ s.cancel.signalled = false ∧ s.shutdown = false := by
  cases hc : s.cancel.signalled <;> cases hs : s.shutdown <;> simp [stop?, hc, hs]

/-- What is planned and due arrives now; what is not due arrives later, and the turn of the
surroundings changes nothing about it. -/
theorem arrival_of_due (unsettled : s.settled = false) {planned : Option Nat}
    (due : isDue planned s.now = true) : planned.map s.arrival = some s.now := by
  cases planned with
  | none => simp [isDue] at due
  | some tick =>
      simp only [isDue, decide_eq_true_eq] at due
      simp [arrival, unsettled, due]

theorem lt_arrival_of_not_due {planned : Option Nat} (late : isDue planned s.now = false)
    {tick : Nat} (h : planned.map s.arrival = some tick) : s.now < tick := by
  cases planned with
  | none => simp at h
  | some due =>
      simp only [isDue, decide_eq_false_iff_not, Nat.not_le] at late
      simp only [Option.map_some, Option.some.injEq] at h
      have : due ≤ s.arrival due := Nat.le_max_left _ _
      omega

theorem arrival_settle {planned : Option Nat} (late : isDue planned s.now = false) :
    (stillPlanned planned s.now).map s.settle.arrival = planned.map s.arrival := by
  cases planned with
  | none => rfl
  | some tick =>
      have hlt : s.now < tick := by simpa [isDue] using late
      have hafter : s.settle.arrival tick = max tick (s.now + 1) := rfl
      have hbefore : s.arrival tick = max tick (s.now + 1) := by
        rw [arrival]
        split <;> omega
      simp only [stillPlanned, late, Bool.false_eq_true, if_false, Option.map_some, hafter, hbefore]

/-- Where the surroundings have had their turn, nothing is due. -/
def Fresh (s : Session) : Prop :=
  s.settled = true → isDue s.cancelAt s.now = false ∧ isDue s.shutdownAt s.now = false

theorem stillPlanned_not_due (planned : Option Nat) (now : Nat) :
    isDue (stillPlanned planned now) now = false := by
  rw [stillPlanned]
  split
  · rfl
  · rwa [Bool.not_eq_true] at *

theorem fresh_settle (s : Session) : s.settle.Fresh :=
  fun _ => ⟨stillPlanned_not_due s.cancelAt s.now, stillPlanned_not_due s.shutdownAt s.now⟩

/-- At the turn of the surroundings nothing arrives, or what was the first request arrives. -/
theorem settle_request (fresh : s.Fresh) (calm : s.stop? = none) (early : s.now < limit) :
    (s.settle.stop? = none ∧ s.settle.request? limit = s.request? limit) ∨
    ∃ t, s.settle.stop? = some t ∧ s.request? limit = some (t, s.now) := by
  obtain ⟨hcancel, hshutdown⟩ := stop_eq_none_iff.mp calm
  have le_now {planned : Option Nat} {tick : Nat} (h : planned.map s.arrival = some tick) :
      s.now ≤ tick := by
    obtain ⟨_, _, rfl⟩ := Option.map_eq_some_iff.mp h
    exact le_arrival _ _
  have unsettled (due : isDue s.cancelAt s.now = true ∨ isDue s.shutdownAt s.now = true) :
      s.settled = false := by
    rw [← Bool.not_eq_true]
    intro settled
    obtain ⟨hc, hd⟩ := fresh settled
    simp [hc, hd] at due
  cases hc : isDue s.cancelAt s.now with
  | true =>
      refine Or.inr ⟨.localCancel, ?_, ?_⟩
      · simp [settle, stop?, hc, CancelFlag.cancel]
      · rw [request?, arrival_of_due (unsettled (Or.inl hc)) hc,
          earlier_of_cancel fun d hd => le_now hd]
        simp [early]
  | false =>
      cases hd : isDue s.shutdownAt s.now with
      | true =>
          refine Or.inr ⟨.taskCancelled, ?_, ?_⟩
          · simp [settle, stop?, hc, hd, hcancel]
          · rw [request?, arrival_of_due (unsettled (Or.inr hd)) hd,
              earlier_of_shutdown fun c hlt => lt_arrival_of_not_due hc hlt]
            simp [early]
      | false =>
          refine Or.inl ⟨?_, ?_⟩
          · simp [settle, stop?, hc, hd, hcancel, hshutdown]
          · rw [request?, request?, ← arrival_settle hc, ← arrival_settle hd]
            rfl

theorem le_foldl_min_iff (l : List Nat) (a c : Nat) :
    c ≤ l.foldl min a ↔ c ≤ a ∧ ∀ x ∈ l, c ≤ x := by
  induction l generalizing a with
  | nil => simp
  | cons y l ih =>
      rw [List.foldl_cons, ih, List.forall_mem_cons, ← and_assoc]
      apply and_congr_left
      intro _
      omega

/-- The next tick is at most the limit and at most every timer. -/
theorem nextTick_le (limit : Nat) (s : Session) :
    s.nextTick limit ≤ limit ∧ ∀ tick ∈ s.timers, s.nextTick limit ≤ tick :=
  (le_foldl_min_iff s.timers limit _).mp (Nat.le_refl _)

/-- The clock passes neither the limit nor a timer that is still to come. -/
theorem advance_now_le (limit : Nat) (s : Session) {tick : Nat} (timer : tick ∈ s.timers) :
    (s.advance limit).now ≤ max (s.now + 1) tick := by
  have := (nextTick_le limit s).2 tick timer
  simp only [advance]
  omega

theorem advance_request (settled : s.settled = true) :
    (s.advance limit).request? limit = s.request? limit := by
  have same {planned : Option Nat} (timers : ∀ tick, planned = some tick → tick ∈ s.timers) :
      planned.map (s.advance limit).arrival = planned.map s.arrival := by
    cases planned with
    | none => rfl
    | some tick =>
        have hle := advance_now_le limit s (timers tick rfl)
        have hlt : s.now + 1 ≤ (s.advance limit).now := Nat.le_max_left _ _
        have hfresh : (s.advance limit).settled = false := rfl
        simp only [Option.map_some, arrival, settled, hfresh, if_true, Bool.false_eq_true,
          if_false, Option.some.injEq]
        omega
  rw [request?, request?]
  change (earlier (s.cancelAt.map _) (s.shutdownAt.map _)).filter _ = _
  have hcancel : ∀ tick, s.cancelAt = some tick → tick ∈ s.timers := by
    intro tick h
    simp [timers, h]
  have hshutdown : ∀ tick, s.shutdownAt = some tick → tick ∈ s.timers := by
    intro tick h
    simp [timers, h]
  rw [same hcancel, same hshutdown]

end Requests

section Clock

theorem timely_endReading {t : Ending} (early : s.now ≤ limit)
    (flag : s.cancel.requested = s.cancel.signalled)
    (asked : t ≠ .localCancel → s.cancel.requested = false) : Timely limit (s.endReading t) where
  early := early
  waking := nofun
  asleep := nofun
  flag := flag
  asked := by
    intro t' ended kind
    obtain rfl : t = t' := Reading.ended.inj ended
    exact asked kind

theorem timely_receiving (early : s.now ≤ limit) (flag : s.cancel.requested = s.cancel.signalled)
    (receiving : s.reading = .receiving)
    (waking : ∀ tick, s.inbound.wake = some tick → s.now ≤ tick ∧ s.inbound.steps ≠ []) :
    Timely limit s where
  early := early
  waking := fun tick _ => waking tick
  asleep := by simp [receiving]
  flag := flag
  asked := by simp [receiving]

theorem timely_afterMessage (early : s.now ≤ limit)
    (flag : s.cancel.requested = s.cancel.signalled) (awake : s.inbound.wake = none) :
    Timely limit s.afterMessage := by
  rcases s.afterMessage_cases with ⟨_, he⟩ | ⟨_, he⟩
  · rw [he]
    apply timely_endReading
    · exact early
    · rfl
    · exact fun kind => absurd rfl kind
  · rw [he]
    refine timely_receiving early flag rfl ?_
    simp [awake]

theorem Timely.reads (h : Timely limit s) (move : Reads s s') : Timely limit s' := by
  have polls := Inbound.polls_poll s.inbound s.now
  have unasked (calm : s.stop? = none) : s.cancel.requested = false :=
    h.flag.trans (stop_eq_none_iff.mp calm).1
  cases move with
  | @stopped t live stop =>
      refine timely_endReading h.early h.flag fun kind => ?_
      rw [h.flag]
      by_contra signalled
      rw [Bool.not_eq_false] at signalled
      simp [stop?, signalled, kind.symm] at stop
  | closed receiving calm => exact timely_endReading h.early h.flag fun _ => unasked calm
  | failed receiving calm =>
      apply timely_endReading
      · exact h.early
      · exact h.flag
      · exact fun _ => unasked calm
  | @moved rest receiving calm arrival =>
      refine timely_receiving h.early h.flag receiving fun tick wake => ?_
      rw [arrival] at polls
      cases polls with
      | started steps =>
          simp only [Option.some.injEq] at wake
          have hle : s.now ≤ tick := by omega
          exact ⟨hle, by simp [steps]⟩
      | woke => simp at wake
  | @ignored e rest receiving calm arrival =>
      refine timely_receiving h.early h.flag receiving fun tick wake => ?_
      rw [arrival] at polls
      cases polls with
      | item => simp [note] at wake
  | @data m rest _ receiving calm arrival verdict =>
      rw [arrival] at polls
      cases polls with
      | item =>
          cases verdict with
          | plain => exact timely_afterMessage h.early h.flag rfl
          | passed => exact timely_afterMessage h.early h.flag rfl
          | unwanted => exact timely_afterMessage h.early h.flag rfl
          | queueing => exact ⟨h.early, by simp, fun _ _ => rfl, h.flag, by simp⟩
  | @queued a queueing => exact timely_afterMessage h.early h.flag (h.asleep a queueing)
  | @refused a queueing => exact timely_afterMessage h.early h.flag (h.asleep a queueing)

/-- Where the read loop waits, its wait is one of the timers. -/
theorem wake_mem_timers {tick : Nat} (receiving : s.reading = .receiving)
    (wake : s.inbound.wake = some tick) : tick ∈ s.timers := by
  simp [timers, receiving, wake]

theorem Timely.next (h : Timely limit s) (next : Next limit s s')
    (finishing : ∀ t, s.reading = .ended t → s.isFinished = true ∨ ¬ s.Quiet) :
    Timely limit s' := by
  cases next with
  | @read s₁ turn move =>
      have h₁ := h.reads (reads_of_readStep move)
      exact ⟨h₁.early, h₁.waking, h₁.asleep, h₁.flag, h₁.asked⟩
  | @write s₁ turn move =>
      obtain ⟨w, events, hw, rfl⟩ := writeStep_eq_some move
      exact ⟨h.early, h.waking, h.asleep, h.flag, h.asked⟩
  | settle quiet running =>
      refine ⟨h.early, h.waking, h.asleep, ?_, fun t ended => ?_⟩
      · simp only [settle]
        split
        · rfl
        · exact h.flag
      · rcases finishing t ended with finished | moving
        · simp [running] at finished
        · exact absurd quiet moving
  | advance quiet running early =>
      refine ⟨?_, fun tick receiving wake => ?_, h.asleep, h.flag, h.asked⟩
      · have := (nextTick_le limit s).1
        simp only [advance]
        omega
      · have hle := advance_now_le limit s (wake_mem_timers receiving wake)
        obtain ⟨_, coming⟩ := h.waking tick receiving wake
        -- a wait that is over would not keep the read loop waiting
        have hlt : s.now < tick := by
          cases readWaits_of_readStep quiet.1 with
          | ended ended => simp [advance, ended] at receiving
          | queueing queueing => simp [advance, queueing] at receiving
          | receiving _ _ arrival =>
              have polls := Inbound.polls_poll s.inbound s.now
              rw [arrival] at polls
              cases polls with
              | held steps => exact absurd steps coming
              | @waiting _ _ tick' _ wake' early =>
                  obtain rfl : tick' = tick := Option.some.inj (wake'.symm.trans wake)
                  exact early
        refine ⟨?_, coming⟩
        omega

end Clock

end DuplexStream.Session
