import DuplexStream.Proofs.Session.Accounting
import DuplexStream.Proofs.Session.Arrivals
import DuplexStream.Proofs.Session.Interruption
import Mathlib.Data.Nat.Find

/-!
# The timeline of a plain session

A session that acknowledges nothing ends for one of four causes: its trigger fires, its script is
over, it is cancelled, or it is shut down. The times of all four can be read off the script and the
plans, and the earliest one ends the session (`Session.plain_timeline`). Where two fall together,
the script goes before the requests, and a cancel before a shutdown.
-/

namespace DuplexStream

open ScriptStep

/-- The trigger of a session fires at a message that arrives when so much time has passed. -/
def SessionPlan.late (plan : SessionPlan) (time : Nat) : Bool :=
  plan.cancelAfter.any fun delay => decide (delay.nanos ≤ (Duration.ofMillis time).nanos)

/-- Surroundings in which a session is asked to stop when so much time has passed since a moment. -/
def Surroundings.asking (cancel shutdown : Option Nat) (peer : PeerPlan) (entropy : Entropy)
    (opened : Moment) : Surroundings where
  cancelAt := cancel.map (opened.tick + ·)
  shutdownAt := shutdown.map (opened.tick + ·)
  shutDown := false
  plan := peer
  entropy := entropy

/-- What can end a plain session. -/
inductive EndCause where
  | trigger
  | script
  | cancel
  | shutdown
  deriving DecidableEq

namespace EndCause

/-- Which cause goes first where two fall together. -/
def rank : EndCause → Nat
  | trigger => 0
  | script => 1
  | cancel => 2
  | shutdown => 3

/-- How a cause ends a session, and how long after the opening, if nothing else ends it before: at
the first message that is late for the trigger, at the end of a script that does not hold, and at
the requests, if there are any. -/
def end? (plan : SessionPlan) (stream : StreamScript) (cancel shutdown : Option Nat) :
    EndCause → Option (Ending × Nat)
  | trigger => ((arrivals stream.steps 0).find? plan.late).map fun fired => (.localCancel, fired)
  | script => stream.finish.ending?.map fun t => (t, total stream.steps)
  | .cancel => cancel.map fun tick => (.localCancel, tick)
  | .shutdown => shutdown.map fun tick => (.taskCancelled, tick)

/-- How many messages a session has received when a cause ends it: all that have arrived by then. Of
the messages that arrive together the trigger takes none after the one at which it fires. -/
def received (plan : SessionPlan) (stream : StreamScript) (time : Nat) : EndCause → Nat
  | trigger => ((arrivals stream.steps 0).takeWhile fun x => !plan.late x).length + 1
  | _ => ((arrivals stream.steps 0).filter fun x => decide (x ≤ time)).length

/-- A cause that ends a session before all others, or together with others that it goes before. -/
structure Earliest (ends : EndCause → Option (Ending × Nat)) (c : EndCause) (t : Ending) (e : Nat) :
    Prop where
  here : ends c = some (t, e)
  first : ∀ c' t' e', ends c' = some (t', e') → e < e' ∨ e = e' ∧ c.rank ≤ c'.rank

/-- Where there is a cause at all, one is the earliest. -/
theorem exists_earliest {ends : EndCause → Option (Ending × Nat)} {c : EndCause}
    {r : Ending × Nat} (h : ends c = some r) : ∃ c t e, Earliest ends c t e := by
  classical
  have reachesEnd : ∃ k c t e, ends c = some (t, e) ∧ 4 * e + rank c = k := ⟨_, c, r.1, r.2, h, rfl⟩
  obtain ⟨c, t, e, here, order⟩ := Nat.find_spec reachesEnd
  refine ⟨c, t, e, here, fun c' t' e' there => ?_⟩
  have least : 4 * e + rank c ≤ 4 * e' + rank c' := by
    rw [order]
    exact Nat.find_min' reachesEnd ⟨c', t', e', there, rfl⟩
  have hc : rank c ≤ 3 := by cases c <;> decide
  have hc' : rank c' ≤ 3 := by cases c' <;> decide
  omega

section Earliest

variable {plan : SessionPlan} {stream : StreamScript} {cancel shutdown : Option Nat}
  {c : EndCause} {t : Ending} {e : Nat}

/-- The trigger and the script are what the reading of the script sees. -/
theorem end_of_scriptEnd (cancel shutdown : Option Nat)
    (h : Outside.scriptEnd plan.late stream.finish stream.steps 0 = some (t, e)) :
    ∃ c, end? plan stream cancel shutdown c = some (t, e) ∧ rank c ≤ 1 := by
  simp only [Outside.scriptEnd] at h
  split at h
  · rename_i fired hf
    exact ⟨trigger, by simpa [end?, hf] using h, Nat.zero_le _⟩
  · exact ⟨script, by simpa [end?] using h, Nat.le_refl _⟩

/-- A script that is over before all other causes has been over before the trigger. -/
theorem Earliest.unfired (h : Earliest (end? plan stream cancel shutdown) script t e) :
    e = total stream.steps ∧ (arrivals stream.steps 0).find? plan.late = none := by
  obtain ⟨_, _, same⟩ := Option.map_eq_some_iff.mp h.here
  simp only [Prod.mk.injEq] at same
  refine ⟨same.2.symm, ?_⟩
  cases hf : (arrivals stream.steps 0).find? plan.late with
  | none => rfl
  | some fired =>
      have before := mem_arrivals_le (List.mem_of_find?_eq_some hf)
      have := h.first trigger .localCancel fired (by simp [end?, hf])
      simp only [rank] at this
      omega

theorem Earliest.scriptEnd (h : Earliest (end? plan stream cancel shutdown) c t e)
    (kind : rank c ≤ 1) :
    Outside.scriptEnd plan.late stream.finish stream.steps 0 = some (t, e) := by
  cases c with
  | trigger =>
      obtain ⟨fired, hf, same⟩ := Option.map_eq_some_iff.mp h.here
      simp only [Outside.scriptEnd, hf, same]
  | script =>
      have here := h.here
      simp only [end?] at here
      simp only [Outside.scriptEnd, h.unfired.2, Nat.zero_add, here]
  | cancel => simp [rank] at kind
  | shutdown => simp [rank] at kind

/-- A request is the earlier one of the two. -/
theorem end_of_earlier (plan : SessionPlan) (stream : StreamScript) {r : Ending × Nat}
    (h : Session.earlier cancel shutdown = some r) :
    ∃ c, end? plan stream cancel shutdown c = some r ∧ 2 ≤ rank c := by
  obtain ⟨t, e⟩ := r
  rcases Session.earlier_eq_some h with ⟨rfl, planned⟩ | ⟨rfl, planned⟩
  · exact ⟨.cancel, by simp [end?, planned], Nat.le_refl _⟩
  · exact ⟨.shutdown, by simp [end?, planned], by decide⟩

theorem Earliest.earlier (h : Earliest (end? plan stream cancel shutdown) c t e)
    (kind : 2 ≤ rank c) : Session.earlier cancel shutdown = some (t, e) := by
  cases c with
  | trigger => simp [rank] at kind
  | script => simp [rank] at kind
  | cancel =>
      obtain ⟨tick, planned, same⟩ := Option.map_eq_some_iff.mp h.here
      simp only [Prod.mk.injEq] at same
      obtain ⟨rfl, rfl⟩ := same
      rw [planned]
      refine Session.earlier_of_cancel fun d hd => ?_
      have := h.first .shutdown .taskCancelled d (by simp [end?, hd])
      omega
  | shutdown =>
      obtain ⟨tick, planned, same⟩ := Option.map_eq_some_iff.mp h.here
      simp only [Prod.mk.injEq] at same
      obtain ⟨rfl, rfl⟩ := same
      rw [planned]
      refine Session.earlier_of_shutdown fun d hd => ?_
      have := h.first .cancel .localCancel d (by simp [end?, hd])
      simp only [rank] at this
      omega

/-- A cause that the script brings about has seen everything up to the trigger. -/
theorem Earliest.received_script (h : Earliest (end? plan stream cancel shutdown) c t e)
    (kind : rank c ≤ 1) :
    (∀ x ∈ upTo plan.late (arrivals stream.steps 0), x ≤ e) ∧
      (upTo plan.late (arrivals stream.steps 0)).length = received plan stream e c := by
  cases c with
  | trigger =>
      obtain ⟨fired, hf, same⟩ := Option.map_eq_some_iff.mp h.here
      simp only [Prod.mk.injEq] at same
      obtain ⟨rfl, rfl⟩ := same
      exact ⟨fun x hx => le_of_mem_upTo (pairwise_arrivals stream.steps 0) hf hx, length_upTo hf⟩
  | script =>
      obtain ⟨rfl, unfired⟩ := h.unfired
      have all (x : Nat) (hx : x ∈ arrivals stream.steps 0) : x ≤ total stream.steps := by
        have := mem_arrivals_le hx
        omega
      have everything : (arrivals stream.steps 0).filter
          (fun x => decide (x ≤ total stream.steps)) = arrivals stream.steps 0 := by
        rw [List.filter_eq_self]
        intro x hx
        exact decide_eq_true (all x hx)
      rw [upTo_of_none unfired]
      exact ⟨all, by simp only [received, everything]⟩
  | cancel => simp [rank] at kind
  | shutdown => simp [rank] at kind

end Earliest

end EndCause

namespace Session

variable {limit : Nat} {s s' : Session}

/-- A session without a layer, which never has an acknowledgement to queue. -/
structure Plain (limit : Nat) (s : Session) : Prop extends Timely limit s where
  attended : Attended s
  fresh : s.Fresh
  layer : s.layer = none
  reading : ∀ a, s.reading ≠ .queueing a
  acksOpen : s.acksOpen = true

section Plain

theorem Plain.foreseeable (h : Plain limit s) : Foreseeable limit s where
  toTimely := h.toTimely
  attended := h.attended
  fresh := fun _ => h.fresh
  wanted := fun _ => h.acksOpen
  listening := fun a queueing => absurd queueing (h.reading a)
  roomy := fun a queueing => absurd queueing (h.reading a)
  stuck := fun a queueing => absurd queueing (h.reading a)

theorem plain_afterMessage (layer : s.layer = none) (acksOpen : s.acksOpen = true) :
    s.afterMessage.layer = none ∧ (∀ a, s.afterMessage.reading ≠ .queueing a) ∧
      s.afterMessage.acksOpen = true := by
  rcases s.afterMessage_cases with ⟨_, he⟩ | ⟨_, he⟩
  · rw [he]
    exact ⟨layer, nofun, acksOpen⟩
  · rw [he]
    exact ⟨layer, nofun, acksOpen⟩

theorem Plain.reads (h : Plain limit s) (move : Reads s s') : Plain limit s' := by
  have kept : s'.layer = none ∧ (∀ a, s'.reading ≠ .queueing a) ∧ s'.acksOpen = true := by
    cases move with
    | stopped => exact ⟨h.layer, nofun, h.acksOpen⟩
    | closed => exact ⟨h.layer, nofun, h.acksOpen⟩
    | failed => exact ⟨h.layer, nofun, h.acksOpen⟩
    | moved => exact ⟨h.layer, h.reading, h.acksOpen⟩
    | ignored => exact ⟨h.layer, h.reading, h.acksOpen⟩
    | data receiving calm arrival verdict =>
        cases verdict with
        | plain => exact plain_afterMessage h.layer h.acksOpen
        | passed layer => exact absurd (h.layer.symm.trans layer) nofun
        | queueing layer => exact absurd (h.layer.symm.trans layer) nofun
        | unwanted layer => exact absurd (h.layer.symm.trans layer) nofun
    | queued queueing => exact absurd queueing (h.reading _)
    | refused queueing => exact absurd queueing (h.reading _)
  exact ⟨h.toTimely.reads move, h.attended.reads move, move.instant.fresh h.fresh, kept.1, kept.2.1,
    kept.2.2⟩

/-- A plain session stays plain, whatever its peer does. -/
theorem Plain.next (h : Plain limit s) (next : Next limit s s') : Plain limit s' := by
  have attended := h.attended.reaches (reaches_next next)
  have timely := h.toTimely.next_of_attended h.attended next
  cases next with
  | @read s₁ turn move =>
      have h₁ := h.reads (reads_of_readStep move)
      exact ⟨timely, attended, h₁.fresh, h₁.layer, h₁.reading, h₁.acksOpen⟩
  | @write s₁ turn move =>
      obtain ⟨w, events, _, rfl⟩ := writeStep_eq_some move
      exact ⟨timely, attended, h.fresh, h.layer, h.reading, h.acksOpen⟩
  | settle => exact ⟨timely, attended, fresh_settle s, h.layer, h.reading, h.acksOpen⟩
  | advance => exact ⟨timely, attended, nofun, h.layer, h.reading, h.acksOpen⟩

theorem Plain.unfolds (h : Plain limit s) (hu : Unfolds limit s s') :
    Plain limit s' ∧ s'.foretold limit = s.foretold limit :=
  hu.keeps (P := fun s' => Plain limit s' ∧ s'.foretold limit = s.foretold limit)
    (fun _ _ ⟨h', same⟩ next => ⟨h'.next next, (foretold_next h'.foreseeable next).trans same⟩)
    ⟨h, rfl⟩

end Plain

section Start

/-- The requests come after the opening. At a tick at which the surroundings have had their turn it
is too late for a request without delay. -/
def Coming (cancel shutdown : Option Nat) (opened : Moment) : Prop :=
  opened.settled = true → cancel ≠ some 0 ∧ shutdown ≠ some 0

variable {plan : SessionPlan} {attempt : Nat} {stream : StreamScript} {cancel shutdown : Option Nat}
  {peer : PeerPlan} {entropy : Entropy} {opened : Moment}

theorem not_due_of_coming {planned : Option Nat} (coming : planned ≠ some 0) (tick : Nat) :
    isDue (planned.map (tick + ·)) tick = false := by
  cases planned with
  | none => rfl
  | some delay =>
      have : delay ≠ 0 := fun h => coming (congrArg some h)
      simp only [Option.map_some, isDue, decide_eq_false_iff_not]
      omega

theorem shutdown_start (coming : Coming cancel shutdown opened) :
    (start plan attempt stream (.asking cancel shutdown peer entropy opened) opened).shutdown =
      false := by
  change opened.reachedAny (shutdown.map (opened.tick + ·)) = false
  cases shutdown with
  | none => rfl
  | some delay =>
      simp only [Option.map_some, Moment.reachedAny, Moment.not_reached_iff]
      rcases Nat.eq_zero_or_pos delay with rfl | later
      · refine Or.inr ⟨rfl, ?_⟩
        rw [← Bool.not_eq_true]
        exact fun settled => (coming settled).2 rfl
      · exact Or.inl (Nat.lt_add_of_pos_right later)

/-- A plain session has nothing to draw. -/
theorem drawingFrom_plain (plain : plan.mode = .plain) {around : Surroundings} {g : Seeded} :
    (start plan attempt stream around opened).drawingFrom g =
      start plan attempt stream around opened := by
  simp [start, drawingFrom, startLayer, plain]

theorem plain_start (plain : plan.mode = .plain) (coming : Coming cancel shutdown opened)
    (n : Nat) :
    Plain (opened.tick + n)
      (start plan attempt stream (.asking cancel shutdown peer entropy opened) opened) where
  early := Nat.le_add_right _ _
  waking := fun _ _ wake => absurd wake nofun
  asleep := nofun
  flag := rfl
  asked := nofun
  attended := attended_start plan attempt stream _ opened
  fresh := fun settled =>
    ⟨not_due_of_coming (coming settled).1 opened.tick,
      not_due_of_coming (coming settled).2 opened.tick⟩
  layer := by simp [start, startLayer, plain]
  reading := nofun
  acksOpen := rfl

theorem earlier_map (a b : Option Nat) (tick : Nat) :
    earlier (a.map (tick + ·)) (b.map (tick + ·)) =
      (earlier a b).map fun r => (r.1, tick + r.2) := by
  cases a <;> cases b <;>
    simp only [earlier, Option.map_some, Option.map_none, Nat.add_le_add_iff_left]
  split <;> rfl

/-- A request arrives when it is planned to. -/
theorem request_start (coming : Coming cancel shutdown opened) (n : Nat) :
    (start plan attempt stream (.asking cancel shutdown peer entropy opened) opened).request?
        (opened.tick + n) =
      ((earlier cancel shutdown).map fun r => (r.1, opened.tick + r.2)).filter fun r =>
        decide (r.2 < opened.tick + n) := by
  have arrives {planned : Option Nat} (coming : opened.settled = true → planned ≠ some 0) :
      (planned.map (opened.tick + ·)).map
          (start plan attempt stream (.asking cancel shutdown peer entropy opened) opened).arrival =
        planned.map (opened.tick + ·) := by
    cases planned with
    | none => rfl
    | some delay =>
        change some (max (opened.tick + delay)
          (if opened.settled then opened.tick + 1 else opened.tick)) = some (opened.tick + delay)
        congr 1
        split
        · have : delay ≠ 0 := fun h => coming ‹_› (congrArg some h)
          omega
        · omega
  rw [← earlier_map, request?]
  change (earlier ((cancel.map (opened.tick + ·)).map _)
    ((shutdown.map (opened.tick + ·)).map _)).filter _ = _
  rw [arrives fun settled => (coming settled).1, arrives fun settled => (coming settled).2]

/-- The reading lasts until a time if the limit and the request are not before it. -/
theorem lasts_start (coming : Coming cancel shutdown opened) (n x : Nat) :
    ((start plan attempt stream (.asking cancel shutdown peer entropy opened) opened).outside
        (opened.tick + n)).lasts opened.tick n x = true ↔
      x ≤ n ∧ ∀ r, earlier cancel shutdown = some r → x ≤ r.2 := by
  simp only [Outside.lasts, outside, request_start coming]
  cases earlier cancel shutdown with
  | none => simp
  | some r =>
      by_cases early : r.2 < n
      · simp [Option.filter, early, and_comm]
      · simp [Option.filter, early]
        omega

/-- What is foretold of a plain session at its start. -/
theorem foretold_start (attempt : Nat) (peer : PeerPlan) (entropy : Entropy)
    (plain : plan.mode = .plain) (coming : Coming cancel shutdown opened) (n : Nat) :
    let first := start plan attempt stream (.asking cancel shutdown peer entropy opened) opened
    let o := first.outside (opened.tick + n)
    (first.foretold (opened.tick + n)).1.length =
        ((upTo plan.late (arrivals stream.steps 0)).filter (o.lasts opened.tick n)).length ∧
      (first.foretold (opened.tick + n)).2 =
        match Outside.scriptEnd plan.late stream.finish stream.steps 0 with
        | some (t, e) => if o.lasts opened.tick n e then some (t, opened.tick + e) else o.request
        | none => o.request := by
  intro first o
  have plainly : Plain (opened.tick + n) first := plain_start plain coming n
  have calm : first.stop? = none :=
    stop_eq_none_iff.mpr ⟨rfl, shutdown_start coming⟩
  have due (r : Ending × Nat) (request : o.request = some r) : r.2 < o.limit :=
    (request_eq_some request).2.1
  have fires (x : Nat) : o.fires (opened.tick + x) = plan.late x := by
    simp only [o, outside, first, start, Trigger.fires, Trigger.ofDelay, SessionPlan.late,
      Nat.add_sub_cancel_left]
    cases plan.cancelAfter with
    | none => rfl
    | some delay => simp
  have now : o.lasts opened.tick n 0 = true :=
    (lasts_start coming n 0).mpr ⟨Nat.zero_le _, fun _ _ => Nat.zero_le _⟩
  have ahead : first.ahead (opened.tick + n) =
      o.foresee stream.steps none (opened.tick + 0) none := by
    rw [Session.ahead, plainly.layer]
    rfl
  rw [foretold_receiving rfl calm, ahead]
  exact Outside.foresee_plain fires rfl due now

/-- The script is foretold to be the end, if it is over before the limit and the requests. All that
the trigger lets through is received. -/
theorem foretold_of_script (plain : plan.mode = .plain) (coming : Coming cancel shutdown opened)
    {c : EndCause} {t : Ending} {e n : Nat}
    (h : EndCause.Earliest (EndCause.end? plan stream cancel shutdown) c t e) (kind : c.rank ≤ 1)
    (early : e < n) :
    let first := start plan attempt stream (.asking cancel shutdown peer entropy opened) opened
    (first.foretold (opened.tick + n)).2 = some (t, opened.tick + e) ∧
      (first.foretold (opened.tick + n)).1.length = c.received plan stream e := by
  intro first
  let o := first.outside (opened.tick + n)
  obtain ⟨length, ends⟩ := foretold_start attempt peer entropy plain coming n
  have lasts (x : Nat) (le : x ≤ e) : o.lasts opened.tick n x = true := by
    refine (lasts_start coming n x).mpr ⟨by omega, fun r hr => ?_⟩
    obtain ⟨c', there, rank⟩ := EndCause.end_of_earlier plan stream hr
    have := h.first c' r.1 r.2 there
    omega
  obtain ⟨before, count⟩ := h.received_script kind
  constructor
  · rw [ends, h.scriptEnd kind]
    exact if_pos (lasts e (Nat.le_refl e))
  · rw [length, ← count, List.filter_eq_self.mpr fun x hx => lasts x (before x hx)]

/-- A request is foretold to be the end, if it comes before the limit and the script is not over
before it. All that has arrived by then is received. -/
theorem foretold_of_request (plain : plan.mode = .plain) (coming : Coming cancel shutdown opened)
    {c : EndCause} {t : Ending} {e n : Nat}
    (h : EndCause.Earliest (EndCause.end? plan stream cancel shutdown) c t e) (kind : 2 ≤ c.rank)
    (early : e < n) :
    let first := start plan attempt stream (.asking cancel shutdown peer entropy opened) opened
    (first.foretold (opened.tick + n)).2 = some (t, opened.tick + e) ∧
      (first.foretold (opened.tick + n)).1.length = c.received plan stream e := by
  intro first
  let o := first.outside (opened.tick + n)
  obtain ⟨length, ends⟩ := foretold_start attempt peer entropy plain coming n
  have request := h.earlier kind
  have lasts (x : Nat) : o.lasts opened.tick n x = decide (x ≤ e) := by
    rw [Bool.eq_iff_iff, lasts_start coming, request, decide_eq_true_eq]
    simp only [Option.some.injEq, forall_eq']
    omega
  have later (c' : EndCause) (t' : Ending) (e' : Nat) (low : c'.rank ≤ 1)
      (there : EndCause.end? plan stream cancel shutdown c' = some (t', e')) : e < e' := by
    have := h.first c' t' e' there
    omega
  have arrives : o.request = some (t, opened.tick + e) := by
    rw [show o.request = first.request? (opened.tick + n) from rfl, request_start coming, request]
    simp [early]
  constructor
  · rw [ends]
    cases hs : Outside.scriptEnd plan.late stream.finish stream.steps 0 with
    | none => exact arrives
    | some r =>
        obtain ⟨c', there, low⟩ := EndCause.end_of_scriptEnd cancel shutdown hs
        have := later c' r.1 r.2 low there
        have beyond : o.lasts opened.tick n r.2 = false := by
          rw [lasts, decide_eq_false_iff_not]
          omega
        exact (if_neg (Bool.eq_false_iff.mp beyond)).trans arrives
  · have heard : c.received plan stream e =
        ((arrivals stream.steps 0).filter fun x => decide (x ≤ e)).length := by
      cases c <;> simp [EndCause.rank] at kind <;> rfl
    have same : o.lasts opened.tick n = fun x => decide (x ≤ e) := funext lasts
    rw [length, heard, same, filter_upTo (pairwise_arrivals stream.steps 0)]
    intro fired hf
    exact later .trigger .localCancel fired (by decide) (by simp [EndCause.end?, hf])

/-- Nothing is foretold of a session that has no cause to end before the limit. -/
theorem foretold_of_none (plain : plan.mode = .plain) (coming : Coming cancel shutdown opened)
    {n : Nat}
    (late : ∀ c t e, EndCause.end? plan stream cancel shutdown c = some (t, e) → n < e) :
    let first := start plan attempt stream (.asking cancel shutdown peer entropy opened) opened
    (first.foretold (opened.tick + n)).2 = none := by
  intro first
  let o := first.outside (opened.tick + n)
  obtain ⟨_, ends⟩ := foretold_start attempt peer entropy plain coming n
  have request : o.request = none := by
    rw [show o.request = first.request? (opened.tick + n) from rfl, request_start coming]
    cases hr : earlier cancel shutdown with
    | none => rfl
    | some r =>
        obtain ⟨c, there, _⟩ := EndCause.end_of_earlier plan stream hr
        have := late c r.1 r.2 there
        simp only [Option.map_some, Option.filter_eq_none_iff, Option.some.injEq, forall_eq',
          decide_eq_true_eq]
        omega
  rw [ends]
  cases hs : Outside.scriptEnd plan.late stream.finish stream.steps 0 with
  | none => exact request
  | some r =>
      obtain ⟨c, there, _⟩ := EndCause.end_of_scriptEnd cancel shutdown hs
      have := late c r.1 r.2 there
      have beyond : o.lasts opened.tick n r.2 = false := by
        rw [← Bool.not_eq_true, lasts_start coming]
        omega
      exact (if_neg (Bool.eq_false_iff.mp beyond)).trans request

/-- The report tells what was foretold at the start, and has no verdicts and no acknowledgements. -/
theorem report_of_foretold (plain : plan.mode = .plain) (coming : Coming cancel shutdown opened)
    (n : Nat) :
    let first := start plan attempt stream (.asking cancel shutdown peer entropy opened) opened
    let foretold := first.foretold (opened.tick + n)
    (first.run (opened.tick + n)).report? = foretold.2.map fun r =>
      { attempt := attempt
        outcome := r.1.outcome false
        messageCount := foretold.1.length
        acksSent := 0
        drops := 0
        duplicates := 0
        elapsed := r.2 - opened.tick
        detail := r.1.detail? } := by
  intro first foretold
  have hu := unfolds_run (opened.tick + n) first
  have continues := hu.reaches.continues
  have poll : 1 ≤ first.writer.poll := Nat.le_max_left 1 plan.writePoll.ticks
  have ordered : InOrder none (ScriptStep.ids stream.steps) 0 (first.run (opened.tick + n)) := by
    have begun := inOrder_start plan attempt stream (.asking cancel shutdown peer entropy opened)
      opened (.ofSeed 0) 0
    rw [drawingFrom_plain plain, plain] at begun
    exact begun.reaches hu.reaches
  obtain ⟨last, same⟩ := (plain_start plain coming n : Plain (opened.tick + n) first).unfolds hu
  obtain ⟨_, brief⟩ := last.foreseeable.report_of_over ordered.count (next_run _ poll)
  rw [same, continues.openedAt] at brief
  cases report : (first.run (opened.tick + n)).report? with
  | none =>
      rw [report, Option.map_none, Foreseen.brief, eq_comm, Option.map_eq_none_iff] at brief
      rw [brief, Option.map_none]
  | some r =>
      obtain ⟨acks, drops, duplicates⟩ := ordered.counts_of_plain report
      have attempt_eq : r.attempt = attempt := by
        obtain ⟨t, _, _, rfl⟩ := report_eq_some report
        exact continues.attempt
      rw [report, Option.map_some, Foreseen.brief, eq_comm, Option.map_eq_some_iff] at brief
      obtain ⟨ending, ends, told⟩ := brief
      simp only [Report.brief, Prod.mk.injEq] at told
      obtain ⟨outcome, count, elapsed, detail⟩ := told
      rw [ends, Option.map_some]
      cases r
      simp only [Option.some.injEq, Report.mk.injEq]
      exact ⟨attempt_eq, outcome.symm, count.symm, acks, drops, duplicates, elapsed.symm,
        detail.symm⟩

end Start

/-- The timeline of a plain session, whatever its script, its trigger, the requests and the peer.
The earliest cause ends it at its time: the report tells how, and counts the messages that have
arrived by then. Before all causes there is no report, so never without a cause. If both requests
are pending when the read loop is next polled, the cancel goes first. -/
theorem plain_timeline (plan : SessionPlan) (plain : plan.mode = .plain) (attempt : Nat)
    (stream : StreamScript) (cancel shutdown : Option Nat) (peer : PeerPlan) (entropy : Entropy)
    (opened : Moment) (coming : Coming cancel shutdown opened) :
    let first := start plan attempt stream (.asking cancel shutdown peer entropy opened) opened
    let ends := EndCause.end? plan stream cancel shutdown
    (∀ c t e, EndCause.Earliest ends c t e → ∀ n, e < n →
      (first.run (opened.tick + n)).report? = some
        { attempt := attempt
          outcome := t.outcome false
          messageCount := c.received plan stream e
          acksSent := 0
          drops := 0
          duplicates := 0
          elapsed := e
          detail := t.detail? }) ∧
    (∀ n, (∀ c t e, ends c = some (t, e) → n < e) →
      (first.run (opened.tick + n)).report? = none) ∧
    (∀ c r, ends c = some r → ∃ c t e, EndCause.Earliest ends c t e) ∧
    ∀ s, Reaches first s → (∀ t, s.reading ≠ .ended t) → ∀ limit,
      ∃ r, ({ s.requestCancel with shutdown := true }.run limit).report? = some r ∧
        r.outcome = .failed .intentionalCancel ∧ r.messageCount = s.count ∧
        r.elapsed = s.now - opened.tick := by
  intro first ends
  refine ⟨?_, ?_, fun _ _ => EndCause.exists_earliest, ?_⟩
  · intro c t e h n early
    have foretold : (first.foretold (opened.tick + n)).2 = some (t, opened.tick + e) ∧
        (first.foretold (opened.tick + n)).1.length = c.received plan stream e := by
      rcases Nat.lt_or_ge 1 c.rank with kind | kind
      · exact foretold_of_request plain coming h kind early
      · exact foretold_of_script plain coming h kind early
    rw [report_of_foretold plain coming n, foretold.1, Option.map_some, foretold.2,
      Nat.add_sub_cancel_left]
  · intro n late
    rw [report_of_foretold plain coming n, foretold_of_none plain coming late, Option.map_none]
  · intro s reached live limit
    have plainly : Plain opened.tick first := plain_start plain coming 0
    have attended := plainly.attended.reaches reached
    have continues := reached.continues
    have poll : 1 ≤ s.writer.poll := by
      rw [continues.poll]
      exact Nat.le_max_left 1 plan.writePoll.ticks
    have ceases : Ceases .localCancel { s.requestCancel with shutdown := true } := by
      apply Ceases.stopped
      · exact live
      · rfl
    obtain ⟨_, _, r, report, outcome, elapsed, _, count⟩ :=
      ceases.run ⟨attended.done, attended.senders, rfl⟩ poll limit
    exact ⟨r, report, outcome, count, elapsed.trans (congrArg (s.now - ·) continues.openedAt)⟩

/-- A script that holds, with a cancel and a shutdown at the tick of its last message. The message
is received, and the session is cancelled. -/
theorem plain_timeline_tied :
    let plan : SessionPlan := ⟨.plain, some (.ofMillis 9), .ofMillis 500, 1⟩
    let stream : StreamScript := ⟨[StreamScript.message 1 [], .wait (.ofMillis 3), .send .empty,
      .wait (.ofMillis 4), StreamScript.message 2 []], .hold⟩
    let first := start plan 1 stream (.asking (some 7) (some 7) .leave 0 .origin) .origin
    let ends := EndCause.end? plan stream (some 7) (some 7)
    let begun := first.run 5
    EndCause.Earliest ends .cancel .localCancel 7 ∧
      (first.run 20).report? =
        some ⟨1, .failed .intentionalCancel, 2, 0, 0, 0, 7, none⟩ ∧
      (∀ c t e, ends c = some (t, e) → 5 < e) ∧ begun.report? = none ∧
      Reaches first begun ∧ begun.reading = .receiving ∧
      ∃ r, ({ begun.requestCancel with shutdown := true }.run 20).report? = some r ∧
        r.outcome = .failed .intentionalCancel ∧ r.messageCount = 1 ∧ r.elapsed = 5 := by
  intro plan stream first ends begun
  have seven (c : EndCause) (t : Ending) (e : Nat) (h : ends c = some (t, e)) :
      e = 7 ∧ 2 ≤ c.rank := by
    have ticks : (ends c).all fun r => decide (r.2 = 7 ∧ 2 ≤ c.rank) := by
      cases c <;> decide +kernel
    simpa [h] using ticks
  have earliest : EndCause.Earliest ends .cancel .localCancel 7 := by
    refine ⟨rfl, fun c t e there => ?_⟩
    obtain ⟨rfl, kind⟩ := seven c t e there
    exact Or.inr ⟨rfl, kind⟩
  have early (c : EndCause) (t : Ending) (e : Nat) (h : ends c = some (t, e)) : 5 < e := by
    rw [(seven c t e h).1]
    decide
  obtain ⟨reports, silent, _, pending⟩ :=
    plain_timeline plan rfl 1 stream (some 7) (some 7) .leave 0 .origin nofun
  have reached : Reaches first begun := (unfolds_run 5 first).reaches
  have receiving : begun.reading = .receiving := by decide +kernel
  have live : ∀ t, begun.reading ≠ .ended t := by simp [receiving]
  have now : begun.now = 5 := by decide +kernel
  have heard : begun.count = 1 := by decide +kernel
  obtain ⟨r, report, outcome, count, elapsed⟩ := pending begun reached live 20
  have twenty := reports .cancel .localCancel 7 earliest 20 (by decide)
  have received : EndCause.received plan stream 7 .cancel = 2 := by decide +kernel
  rw [received] at twenty
  have elapsed_five : r.elapsed = 5 := by
    rw [elapsed, now]
    rfl
  exact ⟨earliest, twenty, early, silent 5 early, reached, receiving, r, report, outcome,
    count.trans heard, elapsed_five⟩

/-- Two waits of half a tick take a whole tick each: the session lasts two ticks although its waits
add up to one. -/
theorem wait_takes_whole_ticks :
    let plan : SessionPlan := ⟨.plain, none, .ofMillis 500, 1⟩
    let half : Duration := ⟨500000⟩
    let stream : StreamScript := ⟨[.wait half, .wait half, StreamScript.message 1 []], .close⟩
    let first := start plan 1 stream .quiet .origin
    EndCause.end? plan stream none none .script = some (.remoteClosed, 2) ∧
      (first.run 20).report? = some ⟨1, .completed, 1, 0, 0, 0, 2, none⟩ ∧
      (Duration.ofMillis 2).nanos ≠ half.nanos + half.nanos := by
  intro plan half stream first
  exact ⟨by decide, by decide +kernel, by decide⟩

end Session

end DuplexStream
