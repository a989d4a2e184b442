import DuplexStream.Proofs.Transport.Bookkeeping
import DuplexStream.Rehearsal.Transport

/-!
# A rehearsed transport is a run of moves

Each step of a `TransportRehearsal` makes moves of its transport, and its result tells what they
came to. So the books of a rehearsed transport are right too.
-/

namespace DuplexStream

namespace ScriptedTransport

variable {t t' t'' : ScriptedTransport (Exchange Envelope)}

theorem run_append (t : ScriptedTransport (Exchange Envelope)) (moves moves' : List Move) :
    t.run (moves ++ moves') =
      ((t.run moves).1 ++ ((t.run moves).2.run moves').1, ((t.run moves).2.run moves').2) := by
  induction moves generalizing t with
  | nil => rfl
  | cons m moves ih => simp only [List.cons_append, run, ih]

/-- Some moves lead from one transport to another. They open streams at these places, and complete
and show these envelopes on each stream. -/
def Leads (t : ScriptedTransport (Exchange Envelope)) (opened : List Nat)
    (sent shown : Nat → List Envelope) (t' : ScriptedTransport (Exchange Envelope)) : Prop :=
  ∃ moves, (t.run moves).2 = t' ∧ (t.run moves).1.opened = opened ∧
    (t.run moves).1.sentOn = sent ∧ (t.run moves).1.shownOn = shown

namespace Leads

variable {opened opened' : List Nat} {sent sent' shown shown' : Nat → List Envelope}
  {m : Exchange.Move Envelope}

theorem refl (t : ScriptedTransport (Exchange Envelope)) :
    Leads t [] (fun _ => []) (fun _ => []) t :=
  ⟨[], rfl, rfl, rfl, rfl⟩

theorem trans (first : Leads t opened sent shown t') (second : Leads t' opened' sent' shown' t'') :
    Leads t (opened ++ opened') (fun stream => sent stream ++ sent' stream)
      (fun stream => shown stream ++ shown' stream) t'' := by
  obtain ⟨moves, rfl, rfl, rfl, rfl⟩ := first
  obtain ⟨moves', rfl, rfl, rfl, rfl⟩ := second
  refine ⟨moves ++ moves', ?_, ?_, ?_, ?_⟩ <;> rw [run_append]
  · exact List.filterMap_append
  · exact funext fun stream => List.filterMap_append
  · exact funext fun stream => List.flatMap_append

/-- One move does what its answer says. -/
theorem step (t : ScriptedTransport (Exchange Envelope)) (m : Move) :
    Leads t (t.step m).1.opened?.toList
      (fun stream => (completedOn stream (m, (t.step m).1)).toList)
      (fun stream => ScriptedTransport.shownOn stream (m, (t.step m).1)) (t.step m).2 := by
  refine ⟨[m], rfl, ?_, funext fun stream => ?_, funext fun stream => ?_⟩
  · simp only [run, Log.opened, List.filterMap_eq_flatMap_toList, List.flatMap_singleton]
  · simp only [run, Log.sentOn, List.filterMap_eq_flatMap_toList, List.flatMap_singleton]
  · simp only [run, Log.shownOn, List.flatMap_singleton]

/-- A sender's move that sends nothing. -/
theorem client (quiet : m.quiet) (t : ScriptedTransport (Exchange Envelope)) (stream : Nat) :
    Leads t [] (fun _ => []) (fun _ => []) (t.step (.client stream m)).2 := by
  have first := step t (.client stream m)
  have makes := t.makes_step (.client stream m)
  generalize t.step (.client stream m) = made at first makes
  obtain ⟨answer, t'⟩ := made
  cases makes with
  | impossible => exact first
  | @client _ _ x =>
      simp only [completedOn, (Exchange.step_of_quiet quiet x).1, ite_self] at first
      exact first

end Leads

end ScriptedTransport

/-- The place of the stream that a result says has been opened. -/
def TransportResult.opened? : TransportResult → Option Nat
  | .opened line => some line
  | _ => none

/-- The envelope of a step that is a send on a stream and has been completed. -/
def TransportStep.completedOn (stream : Nat) : TransportStep → TransportResult → Option Envelope
  | .send line e, .sent => if line = stream then some e else none
  | _, _ => none

/-- The envelopes of a stream that a step has shown. -/
def TransportStep.shownOn (stream : Nat) : TransportStep → TransportResult → List Envelope
  | .sent line, .envelopes es => if line = stream then es else []
  | _, _ => []

namespace TransportRehearsal

open ScriptedTransport (Leads)

/-- A step with this result leads on as the result says. -/
abbrev Does (t : TransportRehearsal) (s : TransportStep) (result : TransportResult)
    (t' : TransportRehearsal) : Prop :=
  Leads t.transport result.opened?.toList (fun stream => (s.completedOn stream result).toList)
    (fun stream => s.shownOn stream result) t'.transport

theorem does_openStream (t : TransportRehearsal) (capacity : Nat) :
    t.Does (.openStream capacity) (t.openStream capacity).1 (t.openStream capacity).2 := by
  have first := Leads.step t.transport (.openStream capacity t.now)
  have makes := t.transport.makes_step (.openStream capacity t.now)
  unfold openStream make
  generalize t.transport.step (.openStream capacity t.now) = made at first makes
  obtain ⟨answer, transport⟩ := made
  cases makes <;> exact first

theorem does_send (t : TransportRehearsal) (line : Nat) (e : Envelope) :
    t.Does (.send line e) (t.send line e).1 (t.send line e).2 := by
  have first := Leads.step t.transport (.client line (.send e))
  have makes := t.transport.makes_step (.client line (.send e))
  unfold send make
  generalize t.transport.step (.client line (.send e)) = made at first makes
  obtain ⟨answer, transport⟩ := made
  cases makes with
  | impossible => exact first
  | @client _ _ x sender there =>
      have inner : x.Makes (.send e) (x.step (.send e)).1 (x.step (.send e)).2 :=
        Exchange.makes_send e
      generalize x.step (.send e) = made at first inner
      obtain ⟨answer, x'⟩ := made
      cases inner with
      | sent => exact first
      | item asks | closed asks | timedOut asks | goesOn asks => cases asks
      | parked =>
          simp only [ScriptedTransport.completedOn, Exchange.Answer.completed?, ite_self] at first
          exact first.trans (.client rfl _ line)
      | turnedAway | impossible =>
          simp only [ScriptedTransport.completedOn, Exchange.Answer.completed?, ite_self] at first
          exact first

theorem does_takeSent (t : TransportRehearsal) (line : Nat) :
    t.Does (.sent line) (t.takeSent line).1 (t.takeSent line).2 := by
  have first := Leads.step t.transport (.sent line)
  have makes := t.transport.makes_step (.sent line)
  unfold takeSent make
  generalize t.transport.step (.sent line) = made at first makes
  obtain ⟨answer, transport⟩ := made
  cases makes with
  | impossible senseless => exact absurd trivial senseless
  | shown | nothing => exact first

theorem opened?_play (deadline n now : Nat) (i : Inbound) :
    (play deadline n now i).1.opened? = none := by
  induction n generalizing now i with
  | zero => rfl
  | succ n ih =>
      unfold play
      split
      · rfl
      · rfl
      · rfl
      · exact ih ..
      · split
        · split
          · exact ih ..
          · rfl
        · rfl

theorem does_next (t : TransportRehearsal) (line : Nat) :
    t.Does (.next line) (t.next line).1 (t.next line).2 := by
  unfold next
  split
  · exact .refl _
  · rename_i i _
    simp only [Does, opened?_play]
    exact .refl _

/-- Each step of a rehearsal does what its result says. -/
theorem does_step (t : TransportRehearsal) (s : TransportStep) :
    t.Does s (t.step s).1 (t.step s).2 := by
  cases s with
  | openStream capacity => exact t.does_openStream capacity
  | next line => exact t.does_next line
  | send line e => exact t.does_send line e
  | sent line => exact t.does_takeSent line
  | push s => exact Leads.step t.transport (.push s)
  | sleep d => exact .refl _
  | dropStream line => exact .refl _
  | dropSender line => exact .client rfl _ line

/-- The places of the streams that a rehearsal opens, in order. -/
def opened (results : List (TransportResult × Nat)) : List Nat :=
  results.filterMap (·.1.opened?)

/-- What a rehearsal sends on a stream, in order. -/
def sentOn (stream : Nat) (steps : List TransportStep) (results : List (TransportResult × Nat)) :
    List Envelope :=
  (steps.zip results).filterMap fun (s, result, _) => s.completedOn stream result

/-- All that a rehearsal shows of a stream, one result after the other. -/
def shownOn (stream : Nat) (steps : List TransportStep) (results : List (TransportResult × Nat)) :
    List Envelope :=
  (steps.zip results).flatMap fun (s, result, _) => s.shownOn stream result

/-- A rehearsal is a run of moves. -/
theorem leads_steps (t : TransportRehearsal) (steps : List TransportStep) :
    Leads t.transport (opened (t.steps steps).1) (sentOn · steps (t.steps steps).1)
      (shownOn · steps (t.steps steps).1) (t.steps steps).2.transport := by
  induction steps generalizing t with
  | nil => exact .refl _
  | cons s steps ih =>
      have both := (t.does_step s).trans (ih (t.step s).2)
      simp only [opened, sentOn, shownOn, TransportRehearsal.steps, List.zip_cons_cons,
        List.filterMap_eq_flatMap_toList, List.flatMap_cons] at both ⊢
      exact both

/-- In a rehearsal too, the streams are numbered as they are opened, and on each of them what has
been shown and what has not been shown yet is what was sent. -/
theorem rehearsed_books (scripts : List CallScript) (steps : List TransportStep) :
    let played := (ofScripts scripts).steps steps
    opened played.1 = List.range played.2.transport.streams.length ∧
      ∀ stream, shownOn stream steps played.1 ++ played.2.transport.unread stream =
        sentOn stream steps played.1 := by
  intro played
  obtain ⟨moves, last, opened, sent, shown⟩ := (ofScripts scripts).leads_steps steps
  have kept := (ScriptedTransport.kept_ofScripts scripts).run moves
  rw [List.nil_append] at kept
  have same : ((ofScripts scripts).transport.run moves).2 = played.2.transport := last
  refine ⟨?_, fun stream => ?_⟩
  · rw [← same, ← opened]
    exact kept.opened
  · calc shownOn stream steps played.1 ++ played.2.transport.unread stream
      _ = ((ofScripts scripts).transport.run moves).1.shownOn stream ++
          ((ofScripts scripts).transport.run moves).2.unread stream := by rw [shown, same]
      _ = ((ofScripts scripts).transport.run moves).1.sentOn stream := kept.shownOn_append stream
      _ = sentOn stream steps played.1 := by rw [sent]

end TransportRehearsal

end DuplexStream
