import DuplexStream.Proofs.Exchange.Taking
import DuplexStream.Transport.Clients

/-!
# The books of a transport

Whatever is done with a transport, and in whatever order: calls use up the scripts first come first
served, each once; every call is on record; the streams are numbered in the order in which they were
opened, whatever failed in between; and on each stream what has been shown and what has not been
shown yet is what was sent on it, in order.

`ScriptedTransport.Makes` says everything about a move that is used here. `Kept` is what holds of
the log and the transport at all times; a move keeps it, so a run does.
-/

namespace DuplexStream

/-- What a call comes to that finds this script, if `streams` have been opened before. -/
def CallScript.answer (streams : Nat) : CallScript → ScriptedTransport.Answer
  | .refuse reason => .failed (some (.refuse reason)) (.connect reason)
  | .reject s => .failed (some (.reject s)) (.rejected s)
  | .stream s => .opened streams s

namespace ScriptedTransport

namespace Answer

/-- The script that was played for a call. -/
def played? : Answer → Option CallScript
  | .opened _ s => some (.stream s)
  | .failed script? _ => script?
  | _ => none

/-- The place of the stream that was opened. -/
def opened? : Answer → Option Nat
  | .opened stream _ => some stream
  | _ => none

/-- Whether it was a call, successful or not. -/
def isCall : Answer → Bool
  | .opened .. => true
  | .failed .. => true
  | _ => false

end Answer

/-- The script that was pushed. -/
def pushed? : Move × Answer → Option CallScript
  | (.push s, _) => some s
  | _ => none

/-- When a call happened. -/
def calledAt? : Move × Answer → Option Nat
  | (.openStream _ now, answer) => if answer.isCall then some now else none
  | _ => none

/-- The envelope of a send that was completed on a stream. -/
def completedOn (stream : Nat) : Move × Answer → Option Envelope
  | (.client other _, .client answer) => if other = stream then answer.completed? else none
  | _ => none

/-- The envelopes that were shown of a stream. -/
def shownOn (stream : Nat) : Move × Answer → List Envelope
  | (.sent other, .shown es) => if other = stream then es else []
  | _ => []

namespace Log

variable (log : Log)

/-- The scripts that were pushed. -/
def pushed : List CallScript := log.filterMap pushed?

/-- The scripts that were played, in the order of the calls. -/
def played : List CallScript := log.filterMap (·.2.played?)

/-- When calls happened. -/
def calledAt : List Nat := log.filterMap calledAt?

/-- The places of the streams, in the order in which they were opened. -/
def opened : List Nat := log.filterMap (·.2.opened?)

/-- What clients have sent on a stream, in order. -/
def sentOn (stream : Nat) : List Envelope := log.filterMap (completedOn stream)

/-- All that was shown of a stream, one answer after the other. -/
def shownOn (stream : Nat) : List Envelope := log.flatMap (ScriptedTransport.shownOn stream)

end Log

variable {t t' : ScriptedTransport (Exchange Envelope)} {m : Move} {answer : Answer}

/-- What is kept of a stream and has not been shown yet. -/
def unread (t : ScriptedTransport (Exchange Envelope)) (stream : Nat) : List Envelope :=
  (t.streams[stream]?.map fun x => x.queue.items).getD []

/-- A move makes sense where it comes. -/
def Possible (t : ScriptedTransport (Exchange Envelope)) : Move → Prop
  | .openStream capacity _ => Queue.admits capacity = true
  | .client stream m => m.isSenders = true ∧ stream < t.streams.length
  | _ => True

/-- All that a move can do, with its answer. -/
inductive Makes (t : ScriptedTransport (Exchange Envelope)) :
    Move → Answer → ScriptedTransport (Exchange Envelope) → Prop
  | impossible {m : Move} (senseless : ¬ t.Possible m) : Makes t m .impossible t
  | pushed (s : CallScript) : Makes t (.push s) .pushed { t with scripts := t.scripts ++ [s] }
  | opened {capacity : Nat} (now : Nat) {s : StreamScript} {rest : List CallScript}
      (admitted : Queue.admits capacity = true) (next : t.scripts = .stream s :: rest) :
      Makes t (.openStream capacity now) (.opened t.streams.length s)
        ⟨rest, t.openedAt ++ [now], t.streams ++ [.ofCapacity capacity]⟩
  | failed {capacity : Nat} (now : Nat) {script : CallScript} {e : StreamError}
      {rest : List CallScript} (admitted : Queue.admits capacity = true)
      (next : t.scripts = script :: rest)
      (fails : script.answer t.streams.length = .failed (some script) e) :
      Makes t (.openStream capacity now) (.failed (some script) e)
        { t with scripts := rest, openedAt := t.openedAt ++ [now] }
  | unserved {capacity : Nat} (now : Nat) (admitted : Queue.admits capacity = true)
      (empty : t.scripts = []) :
      Makes t (.openStream capacity now) (.failed none exhausted)
        { t with openedAt := t.openedAt ++ [now] }
  | client {stream : Nat} {m : Exchange.Move Envelope} {x : Exchange Envelope}
      (sender : m.isSenders = true) (there : t.streams[stream]? = some x) :
      Makes t (.client stream m) (.client (x.step m).1)
        { t with streams := t.streams.set stream (x.step m).2 }
  | shown {stream : Nat} {x : Exchange Envelope} (there : t.streams[stream]? = some x) :
      Makes t (.sent stream) (.shown x.takeAll.1)
        { t with streams := t.streams.set stream x.takeAll.2 }
  | nothing {stream : Nat} (missing : t.streams.length ≤ stream) :
      Makes t (.sent stream) (.shown []) t

section Unread

variable {stream : Nat} {x : Exchange Envelope}

theorem unread_of_opened (there : t.streams[stream]? = some x) :
    t.unread stream = x.queue.items := by
  rw [unread, there, Option.map_some, Option.getD_some]

theorem unread_of_missing (missing : t.streams.length ≤ stream) : t.unread stream = [] := by
  rw [unread, List.getElem?_eq_none missing, Option.map_none, Option.getD_none]

end Unread

section Steps

theorem makes_openStream (capacity now : Nat) :
    t.Makes (.openStream capacity now) (t.openStream capacity now).1
      (t.openStream capacity now).2 := by
  by_cases admitted : Queue.admits capacity = true
  · rcases t with ⟨scripts, openedAt, streams⟩
    simp only [openStream, admitted, Bool.not_true, Bool.false_eq_true, if_false]
    cases scripts with
    | nil => exact .unserved now admitted rfl
    | cons script rest =>
        cases script with
        | refuse reason => exact .failed now admitted rfl rfl
        | reject s => exact .failed now admitted rfl rfl
        | stream s => exact .opened now admitted rfl
  · have refused : (!Queue.admits capacity) = true := by simpa using admitted
    simp only [openStream, refused, if_true]
    exact .impossible admitted

/-- Every step is one of the moves. -/
theorem makes_step (t : ScriptedTransport (Exchange Envelope)) (m : Move) :
    t.Makes m (t.step m).1 (t.step m).2 := by
  cases m with
  | push s => exact .pushed s
  | openStream capacity now => exact makes_openStream capacity now
  | client stream m =>
      by_cases possible : m.isSenders = true ∧ stream < t.streams.length
      · obtain ⟨sender, lt⟩ := possible
        have there := List.getElem?_eq_getElem lt
        simpa only [step, client, there, sender] using .client sender there
      · have nothing : t.client stream m = (.impossible, t) := by
          unfold client
          split
          · rename_i x sender there
            exact absurd ⟨sender, (List.getElem?_eq_some_iff.1 there).1⟩ possible
          · rfl
        simpa only [step, nothing] using .impossible possible
  | sent stream =>
      cases there : t.streams[stream]? with
      | none => simpa only [step, sent, there] using .nothing (List.getElem?_eq_none_iff.1 there)
      | some x => simpa only [step, sent, there] using .shown there

end Steps

section Moves

theorem Makes.scripts (makes : t.Makes m answer t') :
    answer.played?.toList ++ t'.scripts = t.scripts ++ (pushed? (m, answer)).toList := by
  cases makes with
  | @impossible m senseless =>
      cases m with
      | push s => exact absurd trivial senseless
      | _ => exact (List.append_nil _).symm
  | pushed => rfl
  | opened _ _ next | failed _ _ next => simp [Answer.played?, pushed?, next]
  | unserved | client | shown | nothing => simp [Answer.played?, pushed?]

theorem Makes.openedAt (makes : t.Makes m answer t') :
    t'.openedAt = t.openedAt ++ (calledAt? (m, answer)).toList := by
  cases makes with
  | @impossible m => cases m <;> simp [calledAt?, Answer.isCall]
  | opened | failed | unserved => rfl
  | pushed | client | shown | nothing => exact (List.append_nil _).symm

/-- A call takes the next place if it is successful, and else none. -/
theorem Makes.opened_range (makes : t.Makes m answer t') :
    List.range t'.streams.length = List.range t.streams.length ++ answer.opened?.toList := by
  cases makes with
  | opened =>
      rw [List.length_append, List.length_singleton, List.range_succ]
      rfl
  | client | shown =>
      rw [List.length_set]
      exact (List.append_nil _).symm
  | _ => exact (List.append_nil _).symm

/-- What a move completes and shows on a stream goes through its exchange. -/
theorem Makes.onStream (makes : t.Makes m answer t') {stream : Nat} {x : Exchange Envelope}
    (there : t.streams[stream]? = some x) (idle : x.Idle) :
    ∃ x', t'.streams[stream]? = some x' ∧ x'.Idle ∧
      x.HandsOver (completedOn stream (m, answer)).toList (shownOn stream (m, answer)) x' := by
  obtain ⟨lt, -⟩ := List.getElem?_eq_some_iff.1 there
  cases makes with
  | @impossible m =>
      refine ⟨x, there, idle, ?_⟩
      cases m <;> exact .refl x
  | pushed | failed | unserved => exact ⟨x, there, idle, .refl x⟩
  | opened => exact ⟨x, (List.getElem?_append_left lt).trans there, idle, .refl x⟩
  | nothing missing =>
      refine ⟨x, there, idle, ?_⟩
      simp only [completedOn, shownOn, ite_self]
      exact .refl x
  | @client other m y sender there' =>
      by_cases same : other = stream
      · subst same
        obtain rfl := Option.some.inj (there.symm.trans there')
        obtain ⟨quiet, idle'⟩ := (Exchange.makes_step idle.sound m).idle idle sender
        refine ⟨(x.step m).2, List.getElem?_set_self lt, idle', ?_⟩
        have one := Exchange.HandsOver.step x m
        rw [quiet, Option.toList_none] at one
        simpa only [completedOn, shownOn, if_true] using one
      · refine ⟨x, (List.getElem?_set_ne same).trans there, idle, ?_⟩
        simp only [completedOn, shownOn, if_neg same]
        exact .refl x
  | @shown other y there' =>
      by_cases same : other = stream
      · subst same
        obtain rfl := Option.some.inj (there.symm.trans there')
        refine ⟨x.takeAll.2, List.getElem?_set_self lt, idle.takeAll.2.2, ?_⟩
        simp only [completedOn, shownOn, if_true, Option.toList_none]
        exact x.handsOver_takeUpTo _
      · refine ⟨x, (List.getElem?_set_ne same).trans there, idle, ?_⟩
        simp only [completedOn, shownOn, if_neg same]
        exact .refl x

/-- Nothing is completed or shown on a stream that has not been opened. -/
theorem Makes.beyond (makes : t.Makes m answer t') {stream : Nat}
    (missing : t.streams.length ≤ stream) :
    completedOn stream (m, answer) = none ∧ shownOn stream (m, answer) = [] ∧
      ∀ x, t'.streams[stream]? = some x → ∃ capacity, x = .ofCapacity capacity := by
  have unopened : t.streams[stream]? = none := List.getElem?_eq_none missing
  have nobody (x : Exchange Envelope) (there : t.streams[stream]? = some x) :
      ∃ capacity, x = .ofCapacity capacity := by simp [unopened] at there
  have other_ne {other : Nat} {y : Exchange Envelope} (there : t.streams[other]? = some y) :
      other ≠ stream := by
    rintro rfl
    simp [unopened] at there
  cases makes with
  | @impossible m => cases m <;> exact ⟨rfl, rfl, nobody⟩
  | pushed | failed | unserved => exact ⟨rfl, rfl, nobody⟩
  | @opened capacity _ _ rest =>
      refine ⟨rfl, rfl, fun x there => ⟨capacity, ?_⟩⟩
      rw [List.getElem?_append_right missing, List.getElem?_singleton] at there
      split at there
      · exact (Option.some.inj there).symm
      · simp at there
  | nothing =>
      simp only [completedOn, shownOn, ite_self]
      exact ⟨trivial, trivial, nobody⟩
  | client _ there | shown there =>
      have different := other_ne there
      simp only [completedOn, shownOn, if_neg different, List.getElem?_set_ne different]
      exact ⟨trivial, trivial, nobody⟩

end Moves

/-- What holds at all times of a transport that began with some scripts, and of what was done. -/
structure Kept (scripts : List CallScript) (log : Log)
    (t : ScriptedTransport (Exchange Envelope)) : Prop where
  scripts : log.played ++ t.scripts = scripts ++ log.pushed
  openedAt : t.openedAt = log.calledAt
  opened : log.opened = List.range t.streams.length
  /-- A stream has come from an empty one by what was sent and shown. -/
  streams : ∀ (stream : Nat) (x : Exchange Envelope), t.streams[stream]? = some x →
    x.Idle ∧ ∃ capacity,
      (Exchange.ofCapacity capacity).HandsOver (log.sentOn stream) (log.shownOn stream) x
  others : ∀ stream, t.streams.length ≤ stream →
    log.sentOn stream = [] ∧ log.shownOn stream = []

section Kept

variable {scripts : List CallScript} {log : Log}

theorem filterMap_concat {α β : Type} (f : α → Option β) (as : List α) (a : α) :
    (as ++ [a]).filterMap f = as.filterMap f ++ (f a).toList := by
  rw [List.filterMap_append, List.filterMap_eq_flatMap_toList f [a], List.flatMap_singleton]

theorem kept_ofScripts (scripts : List CallScript) : Kept scripts [] (ofScripts scripts) where
  scripts := (List.append_nil _).symm
  openedAt := rfl
  opened := rfl
  streams := nofun
  others _ _ := ⟨rfl, rfl⟩

/-- A move is entered in the books. -/
theorem Kept.makes (kept : Kept scripts log t) (makes : t.Makes m answer t') :
    Kept scripts (log ++ [(m, answer)]) t' := by
  have sentOn (stream : Nat) : Log.sentOn (log ++ [(m, answer)]) stream =
      log.sentOn stream ++ (completedOn stream (m, answer)).toList := filterMap_concat ..
  have shownOn (stream : Nat) : Log.shownOn (log ++ [(m, answer)]) stream =
      log.shownOn stream ++ ScriptedTransport.shownOn stream (m, answer) := by
    rw [Log.shownOn, List.flatMap_append, List.flatMap_singleton, Log.shownOn]
  constructor
  · rw [Log.played, Log.pushed, filterMap_concat, filterMap_concat, List.append_assoc,
      makes.scripts, ← List.append_assoc, ← List.append_assoc]
    exact congrArg (· ++ _) kept.scripts
  · rw [makes.openedAt, kept.openedAt]
    exact (filterMap_concat ..).symm
  · rw [makes.opened_range, ← kept.opened]
    exact filterMap_concat ..
  · intro stream x' there'
    rw [sentOn, shownOn]
    by_cases older : stream < t.streams.length
    · have there := List.getElem?_eq_getElem older
      obtain ⟨idle, capacity, before⟩ := kept.streams stream _ there
      obtain ⟨x'', there'', idle', after⟩ := makes.onStream there idle
      obtain rfl := Option.some.inj (there'.symm.trans there'')
      exact ⟨idle', capacity, before.trans after⟩
    · have missing := Nat.le_of_not_lt older
      obtain ⟨nothing, hidden, fresh⟩ := makes.beyond missing
      obtain ⟨sent, shown⟩ := kept.others stream missing
      obtain ⟨capacity, rfl⟩ := fresh x' there'
      rw [nothing, hidden, sent, shown]
      exact ⟨Exchange.idle_ofCapacity capacity, capacity, .refl _⟩
  · intro stream missing'
    have missing : t.streams.length ≤ stream := by
      have more := congrArg List.length makes.opened_range
      simp only [List.length_range, List.length_append] at more
      omega
    obtain ⟨nothing, hidden, -⟩ := makes.beyond missing
    obtain ⟨sent, shown⟩ := kept.others stream missing
    rw [sentOn, shownOn, nothing, hidden, sent, shown]
    exact ⟨rfl, rfl⟩

/-- A run is entered in the books. -/
theorem Kept.run (kept : Kept scripts log t) (moves : List Move) :
    Kept scripts (log ++ (t.run moves).1) (t.run moves).2 := by
  induction moves generalizing log t with
  | nil =>
      rw [ScriptedTransport.run, List.append_nil]
      exact kept
  | cons m moves ih =>
      have rest := ih (kept.makes (t.makes_step m))
      rw [List.append_assoc] at rest
      exact rest

/-- On each stream, what has been shown and what has not is what was sent. -/
theorem Kept.shownOn_append (kept : Kept scripts log t) (stream : Nat) :
    log.shownOn stream ++ t.unread stream = log.sentOn stream := by
  by_cases opened : stream < t.streams.length
  · have there := List.getElem?_eq_getElem opened
    obtain ⟨idle, capacity, moves, last, sent, shown⟩ := kept.streams stream _ there
    have account := Exchange.account_run (Exchange.sound_ofCapacity capacity) moves
    rw [last] at account
    rw [unread_of_opened there, ← sent, ← shown]
    exact (account.items idle.listening).symm
  · have missing := Nat.le_of_not_lt opened
    obtain ⟨sent, shown⟩ := kept.others stream missing
    rw [unread_of_missing missing, sent, shown]
    rfl

end Kept

section Answers

/-- A call plays the first script that is left, and fails if there is none. -/
theorem Makes.called {capacity now : Nat} (makes : t.Makes (.openStream capacity now) answer t')
    (admitted : Queue.admits capacity = true) :
    answer = t.scripts.head?.elim (.failed none exhausted) (CallScript.answer t.streams.length) ∧
      t'.scripts = t.scripts.tail := by
  cases makes with
  | impossible senseless => exact absurd admitted senseless
  | opened _ _ next =>
      rw [next]
      exact ⟨rfl, rfl⟩
  | failed _ _ next fails =>
      rw [next]
      exact ⟨fails.symm, rfl⟩
  | unserved _ _ empty =>
      rw [empty]
      exact ⟨rfl, rfl⟩

/-- A look at a stream shows what has not been shown and leaves nothing of it. The other streams
are left as they are. -/
theorem Makes.shows {scripts : List CallScript} {log : Log} {stream : Nat}
    (makes : t.Makes (.sent stream) answer t') (kept : Kept scripts log t) :
    answer = .shown (t.unread stream) ∧
      ∀ other, t'.unread other = if other = stream then [] else t.unread other := by
  cases makes with
  | impossible senseless => exact absurd trivial senseless
  | nothing missing =>
      have nothing := unread_of_missing missing
      refine ⟨by rw [nothing], fun other => ?_⟩
      split
      · rename_i same
        rw [same, nothing]
      · rfl
  | @shown _ x there =>
      obtain ⟨lt, -⟩ := List.getElem?_eq_some_iff.1 there
      obtain ⟨taken, emptied, -⟩ := (kept.streams stream x there).1.takeAll
      refine ⟨by rw [unread_of_opened there, taken], fun other => ?_⟩
      split
      · rename_i same
        rw [same, unread_of_opened (List.getElem?_set_self lt), emptied]
      · rename_i different
        rw [unread, unread, List.getElem?_set_ne (Ne.symm different)]

end Answers

/-- **The books of a transport are right.** After any moves, the scripts that were played and those
that are left are the scripts there were at first and those that were pushed, in order; all calls
are on record; the streams have been numbered in the order in which they were opened; and on each
stream the answers to all looks, one after the other, and what has not been shown yet are what
was sent on it. The next call plays the first script that is left, takes the next number if this is
a stream and none if it fails, and fails to connect if no script is left. The next look at a stream
shows all that has not been shown, and of this stream only. -/
theorem books_kept {scripts : List CallScript} {moves : List Move} {log : Log}
    {t : ScriptedTransport (Exchange Envelope)}
    (ran : (ofScripts scripts : ScriptedTransport (Exchange Envelope)).run moves = (log, t)) :
    log.played ++ t.scripts = scripts ++ log.pushed ∧
    t.openedAt = log.calledAt ∧
    log.opened = List.range t.streams.length ∧
    (∀ stream, log.shownOn stream ++ t.unread stream = log.sentOn stream) ∧
    (∀ {capacity now : Nat} {answer : Answer} {t' : ScriptedTransport (Exchange Envelope)},
      Queue.admits capacity = true → t.step (.openStream capacity now) = (answer, t') →
        answer =
          t.scripts.head?.elim (.failed none exhausted) (CallScript.answer t.streams.length) ∧
        t'.scripts = t.scripts.tail) ∧
    ∀ {stream : Nat} {answer : Answer} {t' : ScriptedTransport (Exchange Envelope)},
      t.step (.sent stream) = (answer, t') →
        answer = .shown (t.unread stream) ∧
        ∀ other, t'.unread other = if other = stream then [] else t.unread other := by
  have kept : Kept scripts log t := by
    have kept := (kept_ofScripts scripts).run moves
    simpa only [ran, List.nil_append] using kept
  refine ⟨kept.scripts, kept.openedAt, kept.opened, kept.shownOn_append, ?_, ?_⟩
  · intro capacity now answer t' admitted stepped
    have makes := t.makes_step (.openStream capacity now)
    rw [stepped] at makes
    exact makes.called admitted
  · intro stream answer t' stepped
    have makes := t.makes_step (.sent stream)
    rw [stepped] at makes
    exact makes.shows kept

/-- Two failures before and between two streams, each with room for one envelope. The second send
on the first stream waits until the first one has been shown, and is shown next. -/
theorem books_kept_interleaved :
    let hold : StreamScript := ⟨[], .hold⟩
    let scripts : List CallScript := [.refuse "refused", .stream hold]
    let ack (id : UInt64) : Envelope := .ack ⟨id, 0⟩
    let moves : List Move :=
      [.openStream 1 0, .openStream 1 5, .push (.reject ⟨.unavailable, "gone"⟩),
        .push (.stream hold), .client 0 (.send (ack 1)), .client 0 (.send (ack 2)), .openStream 1 6,
        .openStream 1 7, .client 1 (.send (ack 3)), .sent 0, .client 0 (.resume 0), .sent 1,
        .sent 0, .openStream 1 9, .client 1 (.send (ack 4))]
    ∃ (log : Log) (t : ScriptedTransport (Exchange Envelope)),
      (ofScripts scripts : ScriptedTransport (Exchange Envelope)).run moves = (log, t) ∧
      log.played ++ t.scripts = scripts ++ log.pushed ∧ t.openedAt = [0, 5, 6, 7, 9] ∧
      log.opened = List.range t.streams.length ∧ log.opened = [0, 1] ∧
      log.shownOn 0 ++ t.unread 0 = log.sentOn 0 ∧ log.shownOn 0 = [ack 1, ack 2] ∧
      log.shownOn 1 ++ t.unread 1 = log.sentOn 1 ∧ log.shownOn 1 = [ack 3] ∧
      t.unread 1 = [ack 4] ∧ (t.step (.openStream 1 10)).1 = .failed none exhausted ∧
      (t.step (.sent 1)).1 = .shown [ack 4] := by
  intro hold scripts ack moves
  let first : ScriptedTransport (Exchange Envelope) := ofScripts scripts
  have ran : first.run moves = ((first.run moves).1, (first.run moves).2) := (Prod.eta _).symm
  obtain ⟨played, openedAt, opened, shown, calls, looks⟩ := books_kept ran
  have called := (@calls 1 10 _ _ (by decide) (Prod.eta _).symm).1
  have shows := (@looks 1 _ _ (Prod.eta _).symm).1
  have times : (first.run moves).1.calledAt = [0, 5, 6, 7, 9] := by decide +kernel
  have left : (first.run moves).2.scripts = [] := by decide +kernel
  have unread : (first.run moves).2.unread 1 = [ack 4] := by decide +kernel
  rw [left] at called
  rw [unread] at shows
  exact ⟨_, _, ran, played, openedAt.trans times, opened, by decide +kernel, shown 0,
    by decide +kernel, shown 1, by decide +kernel, unread, called, shows⟩

end ScriptedTransport

end DuplexStream
