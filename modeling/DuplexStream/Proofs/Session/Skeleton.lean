import DuplexStream.Proofs.Session.Pace
import DuplexStream.Wire.Adapter

/-!
# What a session sees of its stream

Of everything that comes in, a session sees the ids of the data messages and the time. What is left
of a script is its skeleton: the waits, and a message without contents for every data message. A
session goes on a script as it goes on the skeleton (`Session.run_skeleton`), so two scripts with
one skeleton cannot be told apart.

Where an envelope without data comes in, the read loop makes a move that the session on the skeleton
does not make. Such a move is invisible (`Session.step_skeleton`), but it can give the turn back to
the read loop while the write loop waits, which is why the turn at the end is left open.
-/

namespace DuplexStream

/-- What is seen of a step: a wait, or the id of a message. -/
def ScriptStep.skeleton? : ScriptStep → Option ScriptStep
  | .wait d => some (.wait d)
  | .send e => e.data?.map fun m => StreamScript.message m.id []

/-- What is seen of a script. -/
def StreamScript.skeleton (s : StreamScript) : StreamScript :=
  { s with steps := s.steps.filterMap ScriptStep.skeleton? }

/-- An event as it is noted on the skeleton, where messages are empty and nothing is ignored. -/
def Event.skeleton? : Event → Option Event
  | .ignoredEnvelope _ => none
  | .received attempt id _ => some (.received attempt id (Text.Utf8.textLossy []))
  | event => some event

theorem Event.skeleton_idem (event : Event) :
    event.skeleton?.bind Event.skeleton? = event.skeleton? := by
  cases event <;> rfl

theorem Envelope.eq_data_of_data? {e : Envelope} {m : Message} (data : e.data? = some m) :
    e = .data m := by
  cases e with
  | data m' => exact congrArg Envelope.data (Option.some.inj data)
  | ack | empty => exact absurd data nofun

/-- What is seen of a stream. -/
def Inbound.skeleton (i : Inbound) : Inbound :=
  { i with steps := i.steps.filterMap ScriptStep.skeleton? }

/-- What is seen of an answer of a stream, if anything is. -/
def Arrival.skeleton? : Arrival → Option Arrival
  | .item e rest => e.data?.map fun m => .item (.data ⟨m.id, 0, [], true⟩) rest.skeleton
  | .status st rest => some (.status st rest.skeleton)
  | .closed => some .closed
  | .moved rest => some (.moved rest.skeleton)
  | .pending => some .pending

namespace Inbound

variable {i : Inbound}

/-- Only a wait has begun. -/
def Punctual (i : Inbound) : Prop :=
  ∀ tick, i.wake = some tick → ∃ d rest, i.steps = .wait d :: rest

theorem punctual_of_awake (awake : i.wake = none) : i.Punctual := by
  intro tick wake
  simp [awake] at wake

/-- A stream gives an envelope without data, which is not seen, or its skeleton answers as it
does. -/
theorem poll_skeleton (punctual : i.Punctual) (now : Nat) :
    (∃ e rest, i.poll now = .item e rest ∧ e.data? = none ∧ rest.skeleton = i.skeleton) ∨
      (i.poll now).skeleton? = some (i.skeleton.poll now) := by
  obtain ⟨steps, finish, wake⟩ := i
  cases steps with
  | nil =>
      right
      cases finish <;> rfl
  | cons step rest =>
      cases step with
      | wait d =>
          right
          cases wake with
          | none => rfl
          | some tick =>
              by_cases due : tick ≤ now <;>
                simp [poll, skeleton, Arrival.skeleton?, ScriptStep.skeleton?, due]
      | send e =>
          have awake : wake = none := by
            cases wake with
            | none => rfl
            | some tick => simpa using punctual tick rfl
          subst awake
          cases e with
          | data m => exact Or.inr rfl
          | ack a => exact Or.inl ⟨.ack a, _, rfl, rfl, rfl⟩
          | empty => exact Or.inl ⟨.empty, _, rfl, rfl, rfl⟩

/-- What is left of a stream when it has answered. -/
theorem Punctual.poll (punctual : i.Punctual) (now : Nat) :
    (∀ e rest, i.poll now = .item e rest → rest.Punctual) ∧
    (∀ st rest, i.poll now = .status st rest → rest.Punctual) ∧
    (∀ rest, i.poll now = .moved rest → rest.Punctual) := by
  have polls := i.polls_poll now
  refine ⟨fun e rest answer => ?_, fun st rest answer => ?_, fun rest answer => ?_⟩ <;>
    rw [answer] at polls
  · cases polls with
    | item => exact punctual_of_awake rfl
  · cases polls with
    | failed steps =>
        apply punctual_of_awake
        cases wake : i.wake with
        | none => rfl
        | some tick => simpa [steps] using punctual tick wake
  · cases polls with
    | @started d rest steps => exact fun _ _ => ⟨d, rest, steps⟩
    | woke => exact punctual_of_awake rfl

end Inbound

namespace Session

variable {s s' : Session} {limit : Nat}

/-- What a session sees of its stream, and what it notes of that. -/
def skeleton (s : Session) : Session :=
  { s with inbound := s.inbound.skeleton, log := s.log.filterMap Event.skeleton? }

section Moves

theorem note_skeleton (s : Session) (events : List Event) :
    s.skeleton.note (events.filterMap Event.skeleton?) = (s.note events).skeleton := by
  simp only [note, skeleton, List.filterMap_append, List.filterMap_reverse]

theorem sideBySide_skeleton : SideBySide (fun s t => t = s.skeleton) fun s t => t = s.skeleton where
  alike side := side ▸ ⟨rfl, rfl, rfl, rfl, rfl⟩
  ending _ side := side ▸ rfl
  message side := side ▸ afterMessage_map skeleton rfl rfl rfl rfl
  layered _ side := side ▸ rfl
  withheld _ _ kind side := by
    rcases kind with rfl | rfl <;> exact side ▸ rfl
  queueing _ side := side ▸ rfl
  queued _ _ side := side ▸ rfl
  refused _ side := side ▸ rfl

/-- What is seen of an answer leads the session on the skeleton where the answer leads the session.
Of a message only the id is seen. -/
theorem answered_skeleton (s : Session) {answer seen : Arrival} (h : answer.skeleton? = some seen) :
    Option.Rel (fun s t => t = s.skeleton) (s.answered answer) (s.skeleton.answered seen) := by
  cases answer with
  | item e rest =>
      obtain ⟨m, data, item⟩ := Option.map_eq_some_iff.mp h
      obtain rfl := Envelope.eq_data_of_data? data
      have side := sideBySide_skeleton.acknowledge (s := s.taking m rest) rfl m.id
      rw [← item]
      exact .some side
  | status | closed | moved =>
      obtain rfl := Option.some.inj h
      exact .some rfl
  | pending =>
      obtain rfl := Option.some.inj h
      exact .none

/-- A move of the read loop takes an envelope without data, or it is made on the skeleton, too. -/
theorem readStep_skeleton (punctual : s.inbound.Punctual) :
    (∃ s', s.readStep = some s' ∧ s'.skeleton = s.skeleton) ∨
      s.skeleton.readStep = s.readStep.map skeleton := by
  by_cases unseen : s.reading = .receiving ∧ s.stop? = none ∧ ∃ e rest,
      s.inbound.poll s.now = .item e rest ∧ e.data? = none ∧ rest.skeleton = s.inbound.skeleton
  · left
    obtain ⟨receiving, calm, e, rest, item, bare, same⟩ := unseen
    have taken : ({ s with inbound := rest }.note [.ignoredEnvelope s.attempt]).skeleton =
        s.skeleton :=
      congrArg (fun i => ({ s.skeleton with inbound := i } : Session)) same
    refine ⟨_, ?_, taken⟩
    rw [readStep_eq_answered receiving calm, item]
    cases e with
    | data m => simp [Envelope.data?] at bare
    | ack | empty => rfl
  · right
    apply eq_map_of_rel
    apply sideBySide_skeleton.readStep rfl
    intro receiving calm
    rcases Inbound.poll_skeleton punctual s.now with bare | seen
    · exact absurd ⟨receiving, calm, bare⟩ unseen
    · exact s.answered_skeleton seen

theorem writeStep_skeleton (s : Session) : s.skeleton.writeStep = s.writeStep.map skeleton := by
  apply writeStep_map skeleton rfl rfl
  intro w events move
  have seen : events.filterMap Event.skeleton? = events := by
    cases move <;> rfl
  have noted := note_skeleton { s with writer := w } events
  rw [seen] at noted
  exact noted

end Moves

section Punctual

theorem inbound_afterMessage (s : Session) : s.afterMessage.inbound = s.inbound := by
  rcases s.afterMessage_cases with ⟨_, he⟩ | ⟨_, he⟩
  · rw [he]
    rfl
  · rw [he]

theorem Acknowledges.inbound {id : UInt64} (h : Acknowledges s id s') :
    s'.inbound = s.inbound := by
  cases h with
  | plain => exact inbound_afterMessage _
  | passed => exact inbound_afterMessage _
  | queueing => rfl
  | unwanted => exact inbound_afterMessage _

theorem punctual_reads (punctual : s.inbound.Punctual) (move : Reads s s') :
    s'.inbound.Punctual := by
  obtain ⟨item, status, moved⟩ := punctual.poll s.now
  cases move with
  | stopped | closed => exact punctual
  | failed _ _ arrival => exact status _ _ arrival
  | moved _ _ arrival => exact moved _ arrival
  | ignored _ _ arrival => exact item _ _ arrival
  | data _ _ arrival verdict =>
      rw [verdict.inbound]
      exact item _ _ arrival
  | queued =>
      rw [inbound_afterMessage]
      exact punctual
  | refused =>
      rw [inbound_afterMessage]
      exact punctual

theorem punctual_next (punctual : s.inbound.Punctual) (next : Next limit s s') :
    s'.inbound.Punctual := by
  cases next with
  | read turn move =>
      have later := punctual_reads punctual (reads_of_readStep move)
      exact later
  | write turn move =>
      obtain ⟨w, events, _, rfl⟩ := writeStep_eq_some move
      exact punctual
  | settle => exact punctual
  | advance => exact punctual

end Punctual

section Runs

/-- A move of a loop takes an envelope without data, which gives the turn to the read loop where the
write loop waits, or it is made on the skeleton, too. -/
theorem step_skeleton (punctual : s.inbound.Punctual) :
    (∃ s', s.step = some s' ∧ s'.skeleton = { s.skeleton with turn := .reader } ∧
      (s.turn = .reader ∨ s.writeStep = none)) ∨
    s.skeleton.step = s.step.map skeleton := by
  rcases readStep_skeleton punctual with ⟨s', read, same⟩ | read
  · have turn : s'.turn = s.turn := congrArg Aside.turn (aside_of_readStep read)
    cases ht : s.turn with
    | reader =>
        left
        refine ⟨s', step_of_read ht read, ?_, Or.inl rfl⟩
        rw [same, ← ht]
        rfl
    | writer =>
        have ht' : s.skeleton.turn = .writer := ht
        cases hw : s.writeStep with
        | none =>
            left
            refine ⟨_, step_of_read_back ht hw read, ?_, Or.inr rfl⟩
            exact congrArg (fun s : Session => { s with turn := .reader }) same
        | some s₁ =>
            right
            have write := s.writeStep_skeleton
            rw [hw, Option.map_some] at write
            rw [step_of_write ht hw, step_of_write ht' write, Option.map_some]
  · exact Or.inr (step_map skeleton (fun _ _ => rfl) read s.writeStep_skeleton)

/-- The same session, except that the other loop may have its turn. -/
def ButTurn (s s' : Session) : Prop :=
  ∃ turn, s' = { s with turn := turn }

theorem ButTurn.trans {s'' : Session} (h : ButTurn s s') (h' : ButTurn s' s'') : ButTurn s s'' := by
  obtain ⟨_, rfl⟩ := h
  obtain ⟨turn, rfl⟩ := h'
  exact ⟨turn, rfl⟩

/-- Where the write loop waits, it does not matter which loop has its turn. -/
theorem next_reader (waits : s.writeStep = none) (limit : Nat) :
    ({ s with turn := .reader } : Session).next limit = s.next limit := by
  let reader : Session := { s with turn := .reader }
  have waits' : reader.writeStep = none := by
    cases hw : s.writer.step s.now with
    | none => simp only [writeStep, reader, hw]
    | some r => simp [writeStep, hw] at waits
  have read : reader.readStep = s.readStep.map fun s' => { s' with turn := .reader } :=
    readStep_onAside s fun o => { o with turn := .reader }
  have moves : reader.step = s.step := by
    cases hr : s.readStep with
    | none =>
        rw [hr, Option.map_none] at read
        rw [step_of_waiting read, waits', step_of_waiting hr, waits]
    | some s₁ =>
        rw [hr, Option.map_some] at read
        rw [step_of_read rfl read]
        cases ht : s.turn with
        | reader =>
            have turn : s₁.turn = .reader := (congrArg Aside.turn (aside_of_readStep hr)).trans ht
            rw [step_of_read ht hr, ← turn]
        | writer => rw [step_of_read_back ht waits hr]
  simp only [next, reader, moves]
  rfl

theorem run_reader (waits : s.writeStep = none) (poll : 1 ≤ s.writer.poll) (limit : Nat) :
    ButTurn ({ s with turn := .reader }.run limit) (s.run limit) := by
  let reader : Session := { s with turn := .reader }
  have same : reader.next limit = s.next limit := next_reader waits limit
  change ButTurn (reader.run limit) (s.run limit)
  cases next : s.next limit with
  | none =>
      rw [run_of_over next, run_of_over (same.trans next)]
      exact ⟨s.turn, rfl⟩
  | some s' =>
      rw [run_of_next poll next, run_of_next (s := reader) poll (same.trans next)]
      exact ⟨(s'.run limit).turn, rfl⟩

theorem quiet_skeleton (quiet : s.Quiet) (punctual : s.inbound.Punctual) : s.skeleton.Quiet := by
  constructor
  · rcases readStep_skeleton punctual with ⟨s', read, _⟩ | read
    · simp [quiet.1] at read
    · rw [read, quiet.1, Option.map_none]
  · rw [writeStep_skeleton, quiet.2, Option.map_none]

/-- A session goes on a script as it goes on its skeleton. -/
theorem run_skeleton (limit : Nat) (poll : 1 ≤ s.writer.poll) (punctual : s.inbound.Punctual) :
    ButTurn (s.run limit).skeleton (s.skeleton.run limit) := by
  revert punctual
  apply run_induction limit ?_ ?_ poll
  · intro s halted punctual
    obtain ⟨quiet, done⟩ := over_of_next_eq_none halted
    have halted' : s.skeleton.next limit = none := next_eq_none (quiet_skeleton quiet punctual) done
    rw [run_of_over halted, run_of_over halted']
    exact ⟨s.turn, rfl⟩
  · intro s s' poll next ih punctual
    have later := ih (punctual_next punctual (next_of_eq_some next))
    have goesOn (next' : s.skeleton.next limit = some s'.skeleton) :
        ButTurn (s.run limit).skeleton (s.skeleton.run limit) := by
      rw [run_of_next poll next, run_of_next (s := s.skeleton) poll next']
      exact later
    rcases next_cases next with move | ⟨quiet, running, early, due, rfl⟩ |
      ⟨quiet, running, early, idle, rfl⟩
    · rcases step_skeleton punctual with ⟨s₁, step, unseen, turn⟩ | step
      · -- the skeleton stays where it is, and at most the turn is another one
        obtain rfl := Option.some.inj (step.symm.trans move)
        rw [unseen] at later
        rw [run_of_next poll next]
        rcases turn with turn | waits
        · have held : s.skeleton.turn = .reader := turn
          rw [← held] at later
          exact later
        · have waits' : s.skeleton.writeStep = none := by
            rw [writeStep_skeleton, waits, Option.map_none]
          exact later.trans (run_reader waits' poll limit)
      · apply goesOn
        simp only [Session.next, step, move, Option.map_some]
    · exact goesOn (next_settle (quiet_skeleton quiet punctual) running early due)
    · exact goesOn (next_advance (quiet_skeleton quiet punctual) running early idle)

end Runs

/-- Two sessions that come to the same for everybody outside: the same report at the same moment,
and the same acknowledgements, written in the same order and given to the peer. Also the same is
noted, apart from the payloads of messages and from envelopes that are ignored. -/
structure Indistinct (s s' : Session) : Prop where
  report : s'.report? = s.report?
  moment : s'.moment = s.moment
  written : s'.written = s.written
  given : ∀ horizon, s'.given horizon = s.given horizon
  noted : s'.log.filterMap Event.skeleton? = s.log.filterMap Event.skeleton?

theorem indistinct_of_skeleton (h : ButTurn s.skeleton s') : Indistinct s s' := by
  obtain ⟨turn, rfl⟩ := h
  refine ⟨rfl, rfl, rfl, fun _ => rfl, ?_⟩
  simp only [skeleton, List.filterMap_filterMap, Event.skeleton_idem]

theorem Indistinct.symm (h : Indistinct s s') : Indistinct s' s :=
  ⟨h.report.symm, h.moment.symm, h.written.symm, fun horizon => (h.given horizon).symm,
    h.noted.symm⟩

theorem Indistinct.trans {s'' : Session} (h : Indistinct s s') (h' : Indistinct s' s'') :
    Indistinct s s'' :=
  ⟨h'.report.trans h.report, h'.moment.trans h.moment, h'.written.trans h.written,
    fun horizon => (h'.given horizon).trans (h.given horizon), h'.noted.trans h.noted⟩

section Streams

variable (plan : SessionPlan) (attempt : Nat) (around : Surroundings) (opened : Moment)
  (g : Seeded) (cancelled : Bool) (limit : Nat)

theorem begun_skeleton (stream : StreamScript) :
    (begun plan attempt stream around opened g cancelled).skeleton =
      begun plan attempt stream.skeleton around opened g cancelled := by
  cases cancelled <;> rfl

/-- Streams with one skeleton cannot be told apart. -/
theorem indistinct_of_same {stream other : StreamScript} (same : other.skeleton = stream.skeleton) :
    Indistinct ((begun plan attempt stream around opened g cancelled).run limit)
      ((begun plan attempt other around opened g cancelled).run limit) := by
  have ends (stream : StreamScript) :
      Indistinct ((begun plan attempt stream around opened g cancelled).run limit)
        ((begun plan attempt stream.skeleton around opened g cancelled).run limit) := by
    rw [← begun_skeleton]
    apply indistinct_of_skeleton
    apply run_skeleton
    · exact one_le_poll_begun plan attempt stream around opened g cancelled
    · apply Inbound.punctual_of_awake
      cases cancelled <;> rfl
  exact (ends stream).trans (same ▸ (ends other).symm)

end Streams

end Session

section Framed

/-- A step as it comes in over the framed wire: the peer sends a frame for an envelope that has one,
and the frame is taken for an envelope. -/
def ScriptStep.framed : ScriptStep → List ScriptStep
  | .wait d => [.wait d]
  | .send e =>
    (Envelope.ofFrameItems ((Frame.ofEnvelopes [e]).map .ok)).filterMap
      fun item => item.toOption.map .send

/-- The end of a script as it comes in over the framed wire. -/
def ScriptEnd.framed : ScriptEnd → ScriptEnd
  | .fail st =>
    match Envelope.ofFrameItem (.error st) with
    | .error st' => .fail st'
    | .ok _ => .close
  | finish => finish

/-- A script as it comes in over the framed wire. -/
def StreamScript.framed (s : StreamScript) : StreamScript :=
  ⟨s.steps.flatMap ScriptStep.framed, s.finish.framed⟩

theorem ScriptStep.skeleton_framed (step : ScriptStep) :
    step.framed.filterMap skeleton? = step.skeleton?.toList := by
  cases step with
  | wait d => rfl
  | send e => cases e <;> rfl

/-- The framed wire takes nothing away that is seen. -/
theorem StreamScript.skeleton_framed (s : StreamScript) : s.framed.skeleton = s.skeleton := by
  have steps : (s.steps.flatMap ScriptStep.framed).filterMap ScriptStep.skeleton? =
      s.steps.filterMap ScriptStep.skeleton? := by
    induction s.steps with
    | nil => rfl
    | cons step rest ih =>
        rw [List.flatMap_cons, List.filterMap_append, ih, ScriptStep.skeleton_framed,
          List.filterMap_cons]
        cases step.skeleton? <;> rfl
  have finish : s.finish.framed = s.finish := by
    cases s.finish <;> rfl
  simp only [skeleton, framed, steps, finish]

end Framed

namespace Session

/-- Of what comes in only the ids of the messages matter, and the time. Two scripts with the same
waits, the same ids in the same places and the same end give the same report and the same
acknowledgements, whatever the messages hold, and wherever envelopes without data come in between. A
script that comes in over the framed wire gives the same as its envelopes. -/
theorem only_ids_matter (plan : SessionPlan) (attempt : Nat) (around : Surroundings)
    (opened : Moment) (g : Seeded) (cancelled : Bool) (limit : Nat) (stream : StreamScript) :
    let ended (stream : StreamScript) :=
      (begun plan attempt stream around opened g cancelled).run limit
    (∀ other : StreamScript, other.skeleton = stream.skeleton →
      Indistinct (ended stream) (ended other)) ∧
    Indistinct (ended stream) (ended stream.framed) := by
  intro ended
  constructor
  · intro other same
    exact indistinct_of_same plan attempt around opened g cancelled limit same
  · exact indistinct_of_same plan attempt around opened g cancelled limit stream.skeleton_framed

/-- Full queues, a peer that reads every four ticks, and a cancel after nine: acknowledgements and
empty envelopes in between, other payloads and timestamps change nothing. -/
theorem only_ids_matter_full :
    let plan : SessionPlan := ⟨.reliable ⟨⟨0⟩, some 11⟩, none, .ofMillis 500, 1⟩
    let around : Surroundings :=
      { Surroundings.quiet with plan := .readEvery (.ofMillis 4), cancelAt := some 9 }
    let stream : StreamScript := ⟨[StreamScript.message 7 [], StreamScript.message 5 [],
      .wait (.ofMillis 3), StreamScript.message 9 [], StreamScript.message 2 []], .close⟩
    let other : StreamScript := ⟨[.send (.ack ⟨7, 1⟩), .send (.data ⟨7, 1, [0xFF], false⟩),
      .send (.data ⟨5, 2, [0x41], true⟩), .send .empty, .wait (.ofMillis 3), .send .empty,
      .send (.data ⟨9, 3, [], false⟩), .send (.ack ⟨9, 4⟩), .send (.data ⟨2, 0, [], false⟩),
      .send .empty], .close⟩
    let ended (stream : StreamScript) :=
      (begun plan 1 stream around .origin (.ofSeed 12) false).run 100
    other.skeleton = stream.skeleton ∧ Indistinct (ended stream) (ended other) ∧
      (ended stream).written = [7, 5] ∧ (ended other).written = [7, 5] := by
  intro plan around stream other ended
  have same : other.skeleton = stream.skeleton := by decide
  have alike := (only_ids_matter plan 1 around .origin (.ofSeed 12) false 100 stream).1 other same
  have written : (ended stream).written = [7, 5] := by decide +kernel
  exact ⟨same, alike, written, alike.written.trans written⟩

end Session

end DuplexStream
