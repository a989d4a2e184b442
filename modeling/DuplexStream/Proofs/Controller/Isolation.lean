import DuplexStream.Proofs.Controller.Shutdown
import DuplexStream.Proofs.Session.Recast

/-!
# Attempts on their own

An attempt of a run goes as it goes on its own, on a fresh transport that holds its script and no
other, from the start of the clock. Nothing that earlier attempts have left behind reaches it. Its
number says from which seed it draws and nothing else: it goes as the first attempt goes whose seed
is as much higher as its number is.
-/

namespace DuplexStream

/-- How an attempt with another number ends the same. -/
def AttemptEnd.recast (f : Nat → Nat) : AttemptEnd → AttemptEnd
  | .unopened r => .unopened { r with attempt := f r.attempt }
  | .streamed r => .streamed { r with attempt := f r.attempt }
  | .unfinished => .unfinished
  | .unserviceable => .unserviceable

@[simp] theorem AttemptEnd.recast_id (finish : AttemptEnd) : finish.recast id = finish := by
  cases finish <;> rfl

/-- An attempt on its own: from the start of the clock, on a transport that holds at most one
script. -/
def Attempt.alone (plan : SessionPlan) (around : Surroundings) (limit : Nat)
    (script? : Option CallScript) (number : Nat) : Attempt × ScriptedTransport Session :=
  run plan around limit (.ofScripts script?.toList) number .origin

/-- What the peers of all streams of a transport have been given up to a moment. -/
def ScriptedTransport.acks (horizon : Moment) (t : ScriptedTransport Session) :
    List (List UInt64) :=
  t.streams.map fun s => s.given horizon

/-- The second session is the first one so many ticks later, as the attempt with another number.
What has its turn next is left open. -/
def Session.Repeats (d : Nat) (f : Nat → Nat) (s s' : Session) : Prop :=
  ∃ turn settled, s' = ({ s with turn := turn, settled := settled } : Session).recast d f

/-- The second attempt goes as the first one, so many ticks later, with another number. -/
structure Attempt.Repeats (d : Nat) (f : Nat → Nat) (a a' : Attempt) : Prop where
  opening : a'.opening = a.opening.map (Event.recast f)
  streaming : a'.streaming = a.streaming.map (Event.recast f)
  finish : a'.finish = a.finish.recast f
  ended : a'.ended.tick = a.ended.tick + d

variable {plan : SessionPlan} {mode : AckMode} {around : Surroundings} {limit d k : Nat}
  {f : Nat → Nat}

section Sessions

namespace Session

variable {s s' : Session}

/-- A session in surroundings from which no request comes, told of its beginning at another time. -/
theorem start_recast (calm : around.Calm) (stream : StreamScript) (opened : Moment)
    (layer : startLayer plan.mode around.entropy (f k) = startLayer mode around.entropy k) :
    start plan (f k) stream around opened =
      ({ start { plan with mode := mode } k stream around .origin with
        settled := opened.settled } : Session).recast opened.tick f := by
  have running (m : Moment) : around.hasShutDown m = false := calm.running m
  have peer : Peer.ofPlan around.plan opened.tick =
      (Peer.ofPlan around.plan 0).delayed opened.tick := by
    cases around.plan <;> simp [Peer.ofPlan, Peer.delayed, Nat.add_comm]
  have writer : WriteLoop.start (f k) plan.writePoll plan.channelBuffer
        (((Peer.ofPlan around.plan 0).delayed opened.tick).openQueue plan.channelBuffer)
        opened.tick =
      (WriteLoop.start k plan.writePoll plan.channelBuffer
        ((Peer.ofPlan around.plan 0).openQueue plan.channelBuffer) 0).recast opened.tick f := by
    have room : ((Peer.ofPlan around.plan 0).delayed opened.tick).openQueue plan.channelBuffer =
        (Peer.ofPlan around.plan 0).openQueue plan.channelBuffer := by
      cases around.plan <;> rfl
    simp [room, WriteLoop.start, WriteLoop.recast, Nat.add_comm]
  simp only [start, recast, running, layer, writer, peer, Moment.origin, Nat.zero_add,
    calm.cancelAt, calm.shutdownAt]
  rfl

/-- A session in surroundings from which no request comes goes at any time as it goes at the start
of the clock. -/
theorem run_start_repeats (limit : Nat) (calm : around.Calm) (stream : StreamScript)
    (opened : Moment)
    (layer : startLayer plan.mode around.entropy (f k) = startLayer mode around.entropy k) :
    Repeats opened.tick f
      ((start { plan with mode := mode } k stream around .origin).run (limit - opened.tick))
      ((start plan (f k) stream around opened).run limit) := by
  let first := start { plan with mode := mode } k stream around .origin
  have poll : 1 ≤ first.writer.poll := Nat.le_max_left 1 plan.writePoll.ticks
  rw [start_recast calm stream opened layer, run_recast]
  cases opened.settled with
  | false => exact ⟨_, _, rfl⟩
  | true =>
      obtain ⟨turn, settled, run⟩ := run_presettled (s := first) (limit - opened.tick) poll rfl
        calm.cancelAt calm.shutdownAt
      exact ⟨turn, settled, congrArg (recast opened.tick f) run⟩

theorem Repeats.report (h : Repeats d f s s') :
    s'.report? = s.report?.map fun r => { r with attempt := f r.attempt } := by
  obtain ⟨turn, settled, rfl⟩ := h
  exact report_recast _ d f

theorem Repeats.noted (h : Repeats d f s s') :
    s'.log.reverse ++ s'.endEvents = (s.log.reverse ++ s.endEvents).map (Event.recast f) := by
  obtain ⟨turn, settled, rfl⟩ := h
  rw [endEvents_recast, List.map_append, List.map_reverse]
  rfl

theorem Repeats.given (h : Repeats d f s s') (idle : s.peer.Idle) (horizon : Moment) :
    s'.given horizon = s.given horizon := by
  obtain ⟨turn, settled, rfl⟩ := h
  simp [Session.given, Peer.given, recast, Peer.delayed, WriteLoop.recast, idle.phase]

/-- A peer that reads nothing goes on reading nothing. -/
theorem idle_next (idle : s.peer.Idle) (next : Next limit s s') : s'.peer.Idle := by
  cases next with
  | @read s₁ turn move =>
      have same : s₁.peer = s.peer := congrArg Aside.peer (aside_of_readStep move)
      exact same ▸ idle
  | write turn move =>
      obtain ⟨w, events, _, rfl⟩ := writeStep_eq_some move
      exact idle
  | settle => rw [settle_of_idle idle]; exact idle
  | advance => exact idle

theorem idle_run_start (unread : around.plan = .ignore) (stream : StreamScript)
    (opened : Moment) : ((start plan k stream around opened).run limit).peer.Idle := by
  have idle : (start plan k stream around opened).peer.Idle := by
    have peer : (start plan k stream around opened).peer = Peer.ofPlan around.plan opened.tick :=
      rfl
    rw [peer, unread]
    exact ⟨rfl, rfl⟩
  exact (unfolds_run limit _).keeps (fun _ _ => idle_next) idle

end Session

end Sessions

section Attempts

namespace Attempt

theorem report_recast (finish : AttemptEnd) (opening opening' streaming streaming' : List Event)
    (ended ended' : Moment) :
    (Attempt.mk opening' streaming' (finish.recast f) ended').report? =
      (Attempt.mk opening streaming finish ended).report?.map
        fun r => { r with attempt := f r.attempt } := by
  cases finish <;> rfl

theorem Repeats.report {a a' : Attempt} (h : Repeats d f a a') :
    a'.report? = a.report?.map fun r => { r with attempt := f r.attempt } := by
  obtain ⟨opening, streaming, finish, ended⟩ := a
  obtain ⟨opening', streaming', finish', ended'⟩ := a'
  obtain rfl : finish' = finish.recast f := h.finish
  exact report_recast finish opening opening' streaming streaming' ended ended'

theorem Repeats.events {a a' : Attempt} (h : Repeats d f a a') :
    a'.events = a.events.map (Event.recast f) := by
  simp only [Attempt.events, h.opening, h.streaming, List.map_append]

theorem stream_repeats {opening : List Event} {s s' : Session} {limit limit' : Nat}
    (h : Session.Repeats d f (s.run limit) (s'.run limit')) :
    Repeats d f (stream opening limit s).1
      (stream (opening.map (Event.recast f)) limit' s').1 where
  opening := rfl
  streaming := h.noted
  finish := by
    simp only [stream, h.report]
    cases (s.run limit).report? <;> rfl
  ended := by
    obtain ⟨turn, settled, he⟩ := h
    simp only [stream, he]
    rfl

/-- An attempt of a run goes as on its own. It uses up its script, if it comes to a report at all,
and leaves its stream behind the others. -/
theorem run_repeats (calm : around.Calm) (unread : around.plan = .ignore)
    (layer : Session.startLayer plan.mode around.entropy (f k) =
      Session.startLayer mode around.entropy k)
    (limit : Nat) (t : ScriptedTransport Session) (now : Moment) :
    let own := alone { plan with mode := mode } around (limit - now.tick) t.scripts.head? k
    let made := run plan around limit t (f k) now
    Repeats now.tick f own.1 made.1 ∧
      (∀ horizon, made.2.acks horizon = t.acks horizon ++ own.2.acks horizon) ∧
      (made.1.report? = none ∨ made.2.scripts = t.scripts.tail) := by
  have running (m : Moment) : around.hasShutDown m = false := calm.running m
  have origin : now.tick = Moment.origin.tick + now.tick := (Nat.zero_add _).symm
  cases fits : Queue.admits plan.channelBuffer with
  | false =>
      simp only [alone, run, openOn, running, fits, Bool.false_eq_true, if_false, Bool.not_false,
        if_true]
      exact ⟨⟨rfl, rfl, rfl, origin⟩, fun horizon => (List.append_nil _).symm, Or.inl rfl⟩
  | true =>
      cases scripts : t.scripts with
      | nil =>
          simp only [alone, run, openOn, running, fits, scripts, ScriptedTransport.call,
            ScriptedTransport.ofScripts, List.head?_nil, Option.toList_none, Bool.false_eq_true,
            if_false, Bool.not_true]
          exact ⟨⟨rfl, rfl, rfl, origin⟩, fun horizon => (List.append_nil _).symm, Or.inr rfl⟩
      | cons script rest =>
          cases script with
          | refuse reason =>
              simp only [alone, run, openOn, running, fits, scripts, ScriptedTransport.call,
                ScriptedTransport.ofScripts, List.head?_cons, Option.toList_some,
                Bool.false_eq_true, if_false, Bool.not_true]
              exact ⟨⟨rfl, rfl, rfl, origin⟩, fun horizon => (List.append_nil _).symm, Or.inr rfl⟩
          | reject st =>
              simp only [alone, run, openOn, running, fits, scripts, ScriptedTransport.call,
                ScriptedTransport.ofScripts, List.head?_cons, Option.toList_some,
                Bool.false_eq_true, if_false, Bool.not_true]
              exact ⟨⟨rfl, rfl, rfl, origin⟩, fun horizon => (List.append_nil _).symm, Or.inr rfl⟩
          | stream runs =>
              have session : Session.Repeats now.tick f _ _ :=
                Session.run_start_repeats limit calm runs now layer
              simp only [alone, run, openOn, running, fits, scripts, ScriptedTransport.call,
                ScriptedTransport.ofScripts, List.head?_cons, Option.toList_some,
                Bool.false_eq_true, if_false, Bool.not_true]
              refine ⟨stream_repeats session, fun horizon => ?_, Or.inr rfl⟩
              have given := session.given (Session.idle_run_start unread runs .origin) horizon
              simp only [ScriptedTransport.acks, ScriptedTransport.attach, List.map_append,
                List.map_cons, List.map_nil, List.nil_append]
              exact congrArg (_ ++ [·]) given

/-- An attempt that has come to a report does not depend on how far the clock might have gone on. -/
theorem alone_longer {longer : Nat} {script? : Option CallScript} (further : limit ≤ longer)
    (reported : (alone plan around limit script? k).1.report? ≠ none) :
    alone plan around longer script? k = alone plan around limit script? k := by
  revert reported
  rcases openOn_cases plan around k .origin (.ofScripts script?.toList) with
    ⟨refused, events, t', he, _⟩ | ⟨_, he⟩ | ⟨script, events, t', he⟩
  · simp only [alone, run, he, implies_true]
  · simp only [alone, run, he, implies_true]
  · intro reported
    let first := Session.start plan k script around .origin
    have poll : 1 ≤ first.writer.poll := Nat.le_max_left 1 plan.writePoll.ticks
    have finished : (first.run limit).isFinished = true := by
      cases report : (first.run limit).report? with
      | some r =>
          obtain ⟨t, ended, phase, _⟩ := Session.report_eq_some report
          exact (Session.isFinished_iff _).mpr ⟨⟨t, ended⟩, phase⟩
      | none => simp [alone, run, he, stream, first, report, Attempt.report?] at reported
    have same : first.run longer = first.run limit := Session.run_longer further poll finished
    simp only [alone, run, he, stream]
    rw [same]

/-- The number of an attempt is added to its seed: it draws what the first attempt draws whose seed
is as much higher. -/
theorem startLayer_seeded (p : Binary64) (seed : UInt64) (entropy : Entropy) (positive : 1 ≤ k) :
    Session.startLayer (.reliable ⟨p, some seed⟩) entropy k =
      Session.startLayer (.reliable ⟨p, some (seed + UInt64.ofNat (k - 1))⟩) entropy 1 := by
  have sum : seed + UInt64.ofNat k = seed + UInt64.ofNat (k - 1) + UInt64.ofNat 1 := by
    rw [UInt64.add_assoc, ← UInt64.ofNat_add, Nat.sub_add_cancel positive]
  simp only [Session.startLayer, LossModel.layer, LossModel.generator, sum]

/-- On its own, a seeded attempt differs from a first one in its number alone. -/
theorem alone_seeded (calm : around.Calm) (unread : around.plan = .ignore) {p : Binary64}
    {seed : UInt64} (seeded : plan.mode = .reliable ⟨p, some seed⟩) (positive : 1 ≤ k) (limit : Nat)
    (script? : Option CallScript) :
    let reseeded : AckMode := .reliable ⟨p, some (seed + UInt64.ofNat (k - 1))⟩
    let first := alone { plan with mode := reseeded } around limit script? 1
    let own := alone plan around limit script? k
    Repeats 0 (fun _ => k) first.1 own.1 ∧
      ∀ horizon, own.2.acks horizon = first.2.acks horizon := by
  intro reseeded first own
  have layer : Session.startLayer plan.mode around.entropy k =
      Session.startLayer reseeded around.entropy 1 := by
    rw [seeded]
    exact startLayer_seeded p seed around.entropy positive
  obtain ⟨repeats, acks, _⟩ := run_repeats (f := fun _ => k) (k := 1) calm unread layer limit
    (.ofScripts script?.toList) .origin
  have script : (ScriptedTransport.ofScripts script?.toList :
    ScriptedTransport Session).scripts.head? =
      script? := by
    cases script? <;> rfl
  rw [script] at repeats acks
  exact ⟨repeats, acks⟩

end Attempt

end Attempts

/-- An attempt of a run on scripts as it is on its own. -/
def Trial.alone (plan : SessionPlan) (around : Surroundings) (limit : Nat)
    (scripts : List CallScript) (t : Trial) : Attempt × ScriptedTransport Session :=
  Attempt.alone plan around (limit - t.opened.tick) scripts[t.number - 1]? t.number

namespace Run

variable {frame : RunFrame} {scripts : List CallScript} {r r' : Run (ScriptedTransport Session)}
  {ts : List Trial} {last : ScriptedTransport Session}

/-- Attempts that follow a run so far and go each as on its own. What they leave on the transport is
what they leave on their own. -/
structure Isolated (plan : SessionPlan) (around : Surroundings) (limit : Nat)
    (scripts : List CallScript) (r : Run (ScriptedTransport Session)) (ts : List Trial)
    (last : ScriptedTransport Session) : Prop where
  numbers : ts.map Trial.number = List.range' (r.controller.attempts + 1) ts.length
  repeats : ∀ t ∈ ts,
    (t.alone plan around limit scripts).1.Repeats t.opened.tick id t.made
  acks : ∀ horizon, last.acks horizon =
    r.source.acks horizon ++ ts.flatMap fun t => (t.alone plan around limit scripts).2.acks horizon

/-- The next attempt of a run takes the next script, whatever has happened before. -/
theorem trial_alone (plan : SessionPlan) (limit : Nat) (calm : around.Calm)
    (unread : around.plan = .ignore) (orderly : r.controller.Orderly)
    (left : r.source.scripts = scripts.drop r.controller.attempts) :
    let next := AttemptSource.scripted plan around limit
    let own := (r.trial next).alone plan around limit scripts
    let source := (next r.source r.controller.number r.moment).2
    own.1.Repeats r.moment.tick id (r.trial next).made ∧
      (∀ horizon, source.acks horizon = r.source.acks horizon ++ own.2.acks horizon) ∧
      ((r.trial next).made.report? = none ∨
        source.scripts = scripts.drop (r.controller.attempts + 1)) := by
  have layer : Session.startLayer plan.mode around.entropy (id r.controller.number) =
      Session.startLayer plan.mode around.entropy r.controller.number := rfl
  have number := orderly.number
  have index : r.controller.number - 1 = r.controller.attempts := by omega
  have made := Attempt.run_repeats calm unread layer limit r.source r.moment
  rw [left, List.head?_drop, List.tail_drop] at made
  rw [← number]
  simp only [Trial.alone, trial, index]
  rw [number] at made ⊢
  exact made

/-- One attempt before the others. -/
theorem Isolated.cons (calm : around.Calm) (unread : around.plan = .ignore)
    (orderly : r.controller.Orderly)
    (left : r.source.scripts = scripts.drop r.controller.attempts)
    (attempts : r'.controller.attempts = r.controller.number)
    (source : r'.source = (AttemptSource.scripted plan around limit r.source
      r.controller.number r.moment).2)
    (h : Isolated plan around limit scripts r' ts last) :
    Isolated plan around limit scripts r
      (r.trial (.scripted plan around limit) :: ts) last := by
  obtain ⟨repeats, acks, _⟩ := trial_alone plan limit calm unread orderly left
  refine ⟨?_, List.forall_mem_cons.mpr ⟨repeats, h.repeats⟩, fun horizon => ?_⟩
  · rw [List.map_cons, h.numbers, attempts, List.length_cons, List.range'_succ, ← orderly.number]
    rfl
  · rw [h.acks, source, acks, List.flatMap_cons, List.append_assoc]

theorem isolated_cycles (frame : RunFrame) (calm : around.Calm) (unread : around.plan = .ignore)
    (n : Nat) (r : Run (ScriptedTransport Session)) (orderly : r.controller.Orderly)
    (left : r.source.scripts = scripts.drop r.controller.attempts) :
    Isolated plan around limit scripts r (trials frame (.scripted plan around limit) n r)
      (cycles frame (.scripted plan around limit) n r).2.source := by
  have alone (r : Run (ScriptedTransport Session)) (source : ScriptedTransport Session)
      (same : source = r.source) : Isolated plan around limit scripts r [] source :=
    ⟨rfl, nofun, fun horizon => by rw [same]; exact (List.append_nil _).symm⟩
  induction n generalizing r with
  | zero => exact alone r _ rfl
  | succ n ih =>
      have accepted := accepted_of_orderly frame orderly
      obtain ⟨_, counted, source⟩ := (cycle_cycle (.scripted plan around limit) accepted).counts
      have attempts := congrArg UInt32.toNat counted
      cases he : r.cycle frame (.scripted plan around limit) with
      | inr ended =>
          rw [he] at attempts source
          rw [trials_of_ends accepted he, cycles_of_ends he]
          exact .cons calm unread orderly left attempts source (alone _ _ rfl)
      | inl r' =>
          have leaves := leaves_of_goes he
          rw [he] at attempts source
          rw [trials_of_goes he, cycles_of_goes he]
          refine .cons calm unread orderly left attempts source
            (ih r' (leaves.orderly orderly) ?_)
          -- an attempt without a report would have been the last one
          obtain ⟨_, _, unreported | scripts'⟩ :=
            trial_alone plan limit calm unread orderly left
          · have made : AttemptSource.scripted plan around limit r.source
                r.controller.number r.moment =
                  ((r.trial (.scripted plan around limit)).made, _) := rfl
            obtain ⟨e, r'', last, _⟩ := cycle_of_unreported frame accepted made unreported
            simp [he] at last
          · rw [show r'.source = _ from source, leaves.attempts, orderly.number]
            rw [orderly.number] at scripts'
            exact scripts'

/-- The attempts of a fresh controller on scripted calls go as they go on their own: each notes
and reports what it notes and reports on a fresh transport that holds its script alone, with the
same number, and the acknowledgements of the run are those that its attempts leave on their own.
On its own, a seeded attempt differs in its number alone from the first one whose seed is as much
higher. -/
theorem trials_isolated (policy : RetryPolicy) (plan : SessionPlan) (entropy : Entropy)
    (frame : RunFrame) (scripts : List CallScript) :
    let around : Surroundings := { Surroundings.quiet with entropy := entropy }
    let limit := frame.limit
    let next := AttemptSource.scripted plan around limit
    let ts := trials frame next (budget (.fresh policy))
      (start (.fresh policy) (.ofScripts scripts) .origin)
    let ended := toEnd frame next (.fresh policy) (.ofScripts scripts) .origin
    let own (t : Trial) :=
      Attempt.alone plan around (limit - t.opened.tick) scripts[t.number - 1]? t.number
    ts.map Trial.number = List.range' 1 ts.length ∧
    (∀ t ∈ ts, t.made.report? = (own t).1.report? ∧ t.made.events = (own t).1.events ∧
      t.made.finish = (own t).1.finish ∧
      t.made.ended.tick = t.opened.tick + (own t).1.ended.tick) ∧
    (∀ horizon, ended.2.source.acks horizon = ts.flatMap fun t => (own t).2.acks horizon) ∧
    (∀ t ∈ ts, t.made.report? ≠ none → ∀ longer, limit - t.opened.tick ≤ longer →
      Attempt.alone plan around longer scripts[t.number - 1]? t.number = own t) ∧
    ∀ t ∈ ts, ∀ p seed, plan.mode = .reliable ⟨p, some seed⟩ →
      let reseeded : AckMode := .reliable ⟨p, some (seed + UInt64.ofNat (t.number - 1))⟩
      let first := Attempt.alone { plan with mode := reseeded } around (limit - t.opened.tick)
        scripts[t.number - 1]? 1
      (own t).1.report? = first.1.report?.map (fun r => { r with attempt := t.number }) ∧
      (own t).1.events = first.1.events.map (Event.recast fun _ => t.number) ∧
      ∀ horizon, (own t).2.acks horizon = first.2.acks horizon := by
  intro around limit next ts ended own
  have calm : around.Calm := ⟨rfl, rfl, rfl⟩
  have isolated : Isolated plan around limit scripts
      (start (.fresh policy) (.ofScripts scripts) .origin) ts ended.2.source :=
    isolated_cycles frame calm rfl _ _ (.fresh policy) rfl
  have made (t : Trial) (mem : t ∈ ts) : t.made.report? = (own t).1.report? ∧
      t.made.events = (own t).1.events ∧ t.made.finish = (own t).1.finish := by
    have repeats := isolated.repeats t mem
    have report := repeats.report
    have events := repeats.events
    have finish := repeats.finish
    simp only [id, Option.map_id', Event.recast_id, List.map_id, AttemptEnd.recast_id]
      at report events finish
    exact ⟨report, events, finish⟩
  refine ⟨isolated.numbers, fun t mem => ?_, isolated.acks, fun t mem reported longer further => ?_,
    fun t mem p seed seeded => ?_⟩
  · obtain ⟨report, events, finish⟩ := made t mem
    refine ⟨report, events, finish, ?_⟩
    rw [(isolated.repeats t mem).ended, Nat.add_comm]
    rfl
  · rw [(made t mem).1] at reported
    exact Attempt.alone_longer further reported
  · intro reseeded first
    have number : t.number ∈ List.range' 1 ts.length :=
      isolated.numbers ▸ List.mem_map_of_mem mem
    have positive : 1 ≤ t.number := (List.mem_range'_1.mp number).1
    obtain ⟨repeats, acks⟩ := Attempt.alone_seeded calm rfl seeded positive
      (limit - t.opened.tick) scripts[t.number - 1]?
    exact ⟨repeats.report, repeats.events, acks⟩

/-- The third of three attempts, on the same messages as the first one, which lost all of them. The
sum of its number and its seed goes over the range of a word. -/
theorem trials_isolated_reseeded :
    let policy : RetryPolicy := ⟨4, .ofSeconds 1, .ofSeconds 2, 2, .ofSeconds 5⟩
    let plan : SessionPlan :=
      ⟨.reliable ⟨⟨0x3FE0000000000000⟩, some 18446744073709551614⟩, none, .ofMillis 500, 2⟩
    let steps : List ScriptStep := [StreamScript.message 7 [], StreamScript.message 5 [],
      .wait (.ofMillis 3), StreamScript.message 7 [], StreamScript.message 9 [],
      StreamScript.message 2 [], StreamScript.message 3 []]
    let scripts : List CallScript := [.stream ⟨steps, .fail ⟨.internal, "broken"⟩⟩,
      .reject ⟨.unavailable, "busy"⟩, .stream ⟨steps, .close⟩]
    let around : Surroundings := { Surroundings.quiet with entropy := 0 }
    let frame : RunFrame := .plain "memory" false none 100000
    let next := AttemptSource.scripted plan around 100000
    let ts := trials frame next (budget (.fresh policy))
      (start (.fresh policy) (.ofScripts scripts) .origin)
    let ended := toEnd frame next (.fresh policy) (.ofScripts scripts) .origin
    let first := Attempt.alone { plan with mode := .reliable ⟨⟨0x3FE0000000000000⟩, some 0⟩ }
      around 91997 scripts[2]? 1
    ∃ t ∈ ts, t.number = 3 ∧ t.opened.tick = 8003 ∧
      plan.mode = .reliable ⟨⟨0x3FE0000000000000⟩, some 18446744073709551614⟩ ∧
      t.made.report? = some ⟨3, .completed, 6, 2, 3, 1, 3, none⟩ ∧
      (Attempt.alone plan around 91997 scripts[2]? 3).1.report? = t.made.report? ∧
      Attempt.alone plan around 200000 scripts[2]? 3 =
        Attempt.alone plan around 91997 scripts[2]? 3 ∧
      first.1.report? = some ⟨1, .completed, 6, 2, 3, 1, 3, none⟩ ∧
      t.made.report? = first.1.report?.map (fun r => { r with attempt := 3 }) ∧
      ended.2.source.acks ⟨100000, false⟩ = [[], [7, 5]] := by
  intro policy plan steps scripts around frame next ts ended first
  obtain ⟨_, made, acks, longer, seeded⟩ :=
    trials_isolated policy plan 0 frame scripts
  obtain ⟨t, third⟩ : ∃ t, ts[2]? = some t := Option.isSome_iff_exists.mp (by decide +kernel)
  have mem : t ∈ ts := List.mem_of_getElem? third
  have number : t.number = 3 := by
    have : ts[2]?.map Trial.number = some 3 := by decide +kernel
    simpa [third] using this
  have opened : t.opened.tick = 8003 := by
    have : ts[2]?.map (fun t => t.opened.tick) = some 8003 := by decide +kernel
    simpa [third] using this
  have report : t.made.report? = some ⟨3, .completed, 6, 2, 3, 1, 3, none⟩ := by
    have : (ts[2]?.map fun t => t.made.report?) =
        some (some ⟨3, .completed, 6, 2, 3, 1, 3, none⟩) := by
      decide +kernel
    simpa [third] using this
  let own (t : Trial) (limit : Nat) :=
    Attempt.alone plan around limit scripts[t.number - 1]? t.number
  have same : t.made.report? = (own t (100000 - t.opened.tick)).1.report? := (made t mem).1
  have further : own t 200000 = own t (100000 - t.opened.tick) :=
    longer t mem (by simp [report]) 200000 (show 100000 - t.opened.tick ≤ 200000 by omega)
  have renumbered : (own t (100000 - t.opened.tick)).1.report? = _ :=
    (seeded t mem ⟨0x3FE0000000000000⟩ 18446744073709551614 rfl).1
  have limit : frame.limit = 100000 := rfl
  simp only [own, number, opened, limit] at same further renumbered
  exact ⟨t, mem, number, opened, rfl, report, same.symm, further, by decide +kernel,
    same.trans renumbered, by decide +kernel⟩

end Run

end DuplexStream
