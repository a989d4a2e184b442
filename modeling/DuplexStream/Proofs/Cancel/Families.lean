import DuplexStream.Cancel
import Mathlib.Data.List.Basic
import Mathlib.Data.List.Induction
import Mathlib.Logic.Relation

/-!
# Families of cancel handles

A handle is made afresh or cloned from another one. What has been done with handles is a
`CancelHistory`: it tells who was made afresh, who was cloned from whom, and who was cancelled. Two
handles are kin if they descend from one that was made afresh. Main statement: a handle has been
cancelled exactly if a handle that is kin to it has, before or after either of them was cloned.

The registry gives a family one flag for the record and the signal. As they are laid out these are
two cells, and a handle refers to each of them by itself (`CancelCells`). The main statement is
about both, so they cannot come to differ.
-/

namespace DuplexStream

/-- What is done with handles, in order, from when there are none. -/
abbrev CancelHistory := List CancelStep

namespace CancelHistory

/-- How many handles there are after a step. A step that names no handle comes to nothing. -/
def countStep (n : Nat) : CancelStep → Nat
  | .fresh => n + 1
  | .clone handle => if handle < n then n + 1 else n
  | .cancel _ => n

variable (history : CancelHistory) {step step' : CancelStep} {n handle parent child founder : Nat}

/-- How many handles there are. -/
def count : Nat := history.foldl countStep 0

/-- A step is taken when there are `n` handles. -/
def Takes (step : CancelStep) (n : Nat) : Prop :=
  ∃ before after : CancelHistory, history = before ++ step :: after ∧ before.count = n

/-- A handle is made afresh. -/
def Founds (handle : Nat) : Prop :=
  history.Takes .fresh handle

/-- A handle is cloned from another one, which is there. -/
def Clones (parent child : Nat) : Prop :=
  history.Takes (.clone parent) child ∧ parent < child

/-- A handle that is there is cancelled. -/
def Cancels (handle : Nat) : Prop :=
  ∃ n, history.Takes (.cancel handle) n ∧ handle < n

/-- A handle comes from another one by cloning, at any depth. -/
abbrev Descends : Nat → Nat → Prop :=
  Relation.ReflTransGen history.Clones

/-- Two handles descend from one that was made afresh. -/
def Kin (handle other : Nat) : Prop :=
  ∃ founder, history.Founds founder ∧ history.Descends founder handle ∧
    history.Descends founder other

variable {history}

theorem count_concat : CancelHistory.count (history ++ [step]) = countStep history.count step :=
  List.foldl_concat ..

theorem takes_concat :
    CancelHistory.Takes (history ++ [step']) step n ↔
      history.Takes step n ∨ step' = step ∧ history.count = n := by
  constructor
  · rintro ⟨before, after, split, rfl⟩
    rcases List.eq_nil_or_concat after with rfl | ⟨after, last, rfl⟩
    · obtain ⟨rfl, same⟩ := List.append_inj' split rfl
      exact .inr ⟨List.singleton_inj.1 same, rfl⟩
    · rw [List.concat_eq_append, ← List.cons_append, ← List.append_assoc] at split
      obtain ⟨rfl, -⟩ := List.append_inj' split rfl
      exact .inl ⟨before, after, rfl, rfl⟩
  · rintro (⟨before, after, rfl, rfl⟩ | ⟨rfl, rfl⟩)
    · exact ⟨before, after ++ [step'], by simp, rfl⟩
    · exact ⟨history, [], rfl, rfl⟩

theorem founds_concat :
    CancelHistory.Founds (history ++ [step]) handle ↔
      history.Founds handle ∨ step = .fresh ∧ history.count = handle :=
  takes_concat

theorem clones_concat :
    CancelHistory.Clones (history ++ [step]) parent child ↔
      history.Clones parent child ∨
        step = .clone parent ∧ history.count = child ∧ parent < child := by
  rw [Clones, Clones, takes_concat, or_and_right, and_assoc]

theorem cancels_concat :
    CancelHistory.Cancels (history ++ [step]) handle ↔
      history.Cancels handle ∨ step = .cancel handle ∧ handle < history.count := by
  constructor
  · rintro ⟨n, takes, there⟩
    rcases takes_concat.1 takes with takes | ⟨rfl, rfl⟩
    · exact .inl ⟨n, takes, there⟩
    · exact .inr ⟨rfl, there⟩
  · rintro (⟨n, takes, there⟩ | ⟨rfl, there⟩)
    · exact ⟨n, takes_concat.2 (.inl takes), there⟩
    · exact ⟨_, takes_concat.2 (.inr ⟨rfl, rfl⟩), there⟩

theorem descends_concat (descends : history.Descends founder handle) :
    CancelHistory.Descends (history ++ [step]) founder handle := by
  have fewer : history.Clones ≤ CancelHistory.Clones (history ++ [step]) :=
    fun _ _ clones => clones_concat.2 (.inl clones)
  exact Relation.ReflTransGen.mono fewer _ _ descends

end CancelHistory

namespace CancelRegistry

variable {r r' : CancelRegistry} {history : CancelHistory} {f : CancelFlag} {handle other : Nat}

/-- All that a step can do. -/
inductive Steps (r : CancelRegistry) : CancelStep → CancelRegistry → Prop
  | fresh : Steps r .fresh ⟨r.families ++ [.clear], r.handles ++ [r.families.length]⟩
  | cloned {handle family : Nat} (there : r.handles[handle]? = some family) :
      Steps r (.clone handle) { r with handles := r.handles ++ [family] }
  | cancelled {handle family : Nat} (there : r.handles[handle]? = some family) :
      Steps r (.cancel handle) { r with families := r.families.modify family .cancel }
  | noSource {handle : Nat} (missing : r.handles.length ≤ handle) : Steps r (.clone handle) r
  | noTarget {handle : Nat} (missing : r.handles.length ≤ handle) : Steps r (.cancel handle) r

theorem steps_step (r : CancelRegistry) (step : CancelStep) : r.Steps step (r.step step) := by
  cases step with
  | fresh => exact .fresh
  | clone handle =>
      cases there : r.handles[handle]? with
      | some family => simpa only [CancelRegistry.step, there] using .cloned there
      | none =>
          simpa only [CancelRegistry.step, there] using
            .noSource (List.getElem?_eq_none_iff.1 there)
  | cancel handle =>
      cases there : r.handles[handle]? with
      | some family => simpa only [CancelRegistry.step, there] using .cancelled there
      | none =>
          simpa only [CancelRegistry.step, there] using
            .noTarget (List.getElem?_eq_none_iff.1 there)

/-- Something done with handles cancels the family of this one. -/
def cancels (r : CancelRegistry) (handle : Nat) : CancelStep → Bool
  | .cancel h => r.handles[h]? == r.handles[handle]?
  | _ => false

theorem flag?_eq_some (h : r.flag? handle = some f) :
    ∃ family, r.handles[handle]? = some family ∧ r.families[family]? = some f := by
  cases he : r.handles[handle]? with
  | none => simp [flag?, he] at h
  | some family => exact ⟨family, rfl, by simpa [flag?, he] using h⟩

/-- A handle is cancelled through any handle of its family, and through no other one. -/
theorem Steps.flag? {step : CancelStep} (steps : r.Steps step r')
    (shared : r.flag? handle = some f) :
    r'.flag? handle = some (if r.cancels handle step then f.cancel else f) := by
  obtain ⟨family, he, hf⟩ := flag?_eq_some shared
  have lt : handle < r.handles.length := (List.getElem?_eq_some_iff.mp he).1
  have lt' : family < r.families.length := (List.getElem?_eq_some_iff.mp hf).1
  cases steps with
  | fresh =>
      simp only [CancelRegistry.flag?, cancels, List.getElem?_append_left lt, he,
        List.getElem?_append_left lt', hf]
      rfl
  | cloned =>
      simp only [CancelRegistry.flag?, cancels, List.getElem?_append_left lt, he, hf]
      rfl
  | @cancelled _ other there =>
      simp only [CancelRegistry.flag?, cancels, there, he, List.getElem?_modify, hf]
      by_cases same : other = family <;> simp [same]
  | noSource => exact shared
  | noTarget missing =>
      simp only [cancels, List.getElem?_eq_none missing, he]
      exact shared

theorem flag?_step (shared : r.flag? handle = some f) (step : CancelStep) :
    (r.step step).flag? handle = some (if r.cancels handle step then f.cancel else f) :=
  (r.steps_step step).flag? shared

/-- The registry after some steps. If it starts with a single handle, the first of them is a fresh
one. -/
def after (history : CancelHistory) : CancelRegistry :=
  history.foldl CancelRegistry.step ⟨[], []⟩

theorem after_concat (history : CancelHistory) (step : CancelStep) :
    after (history ++ [step]) = (after history).step step :=
  List.foldl_concat ..

/-- Two handles belong to one family. -/
def Together (r : CancelRegistry) (handle other : Nat) : Prop :=
  ∃ family, r.handles[handle]? = some family ∧ r.handles[other]? = some family

/-- A handle has been cancelled, on record and for those who wait, exactly if `cancelled` holds. -/
def Tells (r : CancelRegistry) (handle : Nat) (cancelled : Prop) : Prop :=
  ∃ b, r.flag? handle = some ⟨b, b⟩ ∧ (b = true ↔ cancelled)

/-- A registry agrees with what has been done. -/
structure Tracks (history : CancelHistory) (r : CancelRegistry) : Prop where
  count : r.handles.length = history.count
  family : ∀ family ∈ r.handles, family < r.families.length
  founds : ∀ handle, history.Founds handle → handle < r.handles.length
  /-- A family has a founder, from which all in it descend. -/
  founder : ∀ family < r.families.length, ∃ founder, history.Founds founder ∧
    ∀ handle : Nat, r.handles[handle]? = some family → history.Descends founder handle
  clones : ∀ parent child, history.Clones parent child → r.Together parent child
  cancels : ∀ handle, history.Cancels handle → handle < r.handles.length
  tells : ∀ handle < r.handles.length,
    r.Tells handle (∃ other, history.Cancels other ∧ r.Together other handle)

variable {step : CancelStep}

section Together

variable {third : Nat}

theorem together_self (there : handle < r.handles.length) : r.Together handle handle :=
  ⟨_, List.getElem?_eq_getElem there, List.getElem?_eq_getElem there⟩

theorem Together.symm (together : r.Together handle other) : r.Together other handle := by
  obtain ⟨family, here, there⟩ := together
  exact ⟨family, there, here⟩

theorem Together.trans (first : r.Together handle other) (second : r.Together other third) :
    r.Together handle third := by
  obtain ⟨family, here, there⟩ := first
  obtain ⟨family', there', last⟩ := second
  obtain rfl := Option.some.inj (there.symm.trans there')
  exact ⟨family, here, last⟩

theorem Together.lt (together : r.Together handle other) : handle < r.handles.length := by
  obtain ⟨family, here, -⟩ := together
  exact (List.getElem?_eq_some_iff.1 here).1

theorem Together.flag? (together : r.Together handle other) : r.flag? handle = r.flag? other := by
  obtain ⟨family, here, there⟩ := together
  simp only [CancelRegistry.flag?, here, there]

/-- A step adds at most one handle and leaves the others in their families. -/
theorem Steps.length (steps : r.Steps step r') :
    r'.handles.length = CancelHistory.countStep r.handles.length step := by
  cases steps with
  | fresh => exact List.length_append
  | cloned there =>
      rw [CancelHistory.countStep, if_pos (List.getElem?_eq_some_iff.1 there).1]
      exact List.length_append
  | cancelled | noTarget => rfl
  | noSource missing => rw [CancelHistory.countStep, if_neg (Nat.not_lt.2 missing)]

theorem Steps.getElem? (steps : r.Steps step r') (there : handle < r.handles.length) :
    r'.handles[handle]? = r.handles[handle]? := by
  cases steps with
  | fresh | cloned => exact List.getElem?_append_left there
  | cancelled | noSource | noTarget => rfl

theorem Steps.length_le (steps : r.Steps step r') : r.handles.length ≤ r'.handles.length := by
  cases steps with
  | fresh | cloned => simp
  | cancelled | noSource | noTarget => exact Nat.le_refl _

theorem Steps.length_le_succ (steps : r.Steps step r') :
    r'.handles.length ≤ r.handles.length + 1 := by
  cases steps with
  | fresh | cloned => simp
  | cancelled | noSource | noTarget => exact Nat.le_succ _

theorem Steps.together_iff (steps : r.Steps step r') (here : handle < r.handles.length)
    (there : other < r.handles.length) : r'.Together handle other ↔ r.Together handle other := by
  rw [Together, Together, steps.getElem? here, steps.getElem? there]

theorem Steps.together (steps : r.Steps step r') (together : r.Together handle other) :
    r'.Together handle other :=
  (steps.together_iff together.lt together.symm.lt).2 together

/-- A clone belongs to the family of the handle that it is cloned from. -/
theorem Steps.together_clone (steps : r.Steps (.clone handle) r')
    (there : handle < r.handles.length) : r'.Together handle r.handles.length := by
  cases steps with
  | @cloned _ family here =>
      refine ⟨family, ?_, List.getElem?_concat_length ..⟩
      rw [List.getElem?_append_left there, here]
  | noSource missing => omega

theorem cancels_iff (there : handle < r.handles.length) (step : CancelStep) :
    r.cancels handle step = true ↔ ∃ other, step = .cancel other ∧ r.Together other handle := by
  cases step with
  | fresh => exact iff_of_false nofun (by simp)
  | clone h => exact iff_of_false nofun (by simp)
  | cancel h =>
      simp [cancels, Together, List.getElem?_eq_getElem there]

end Together

section Tracks

theorem tracks_nil : Tracks [] ⟨[], []⟩ := by
  have nothing {step : CancelStep} {n : Nat} : ¬ CancelHistory.Takes [] step n := by
    rintro ⟨before, after, split, -⟩
    simp at split
  refine ⟨rfl, nofun, fun _ founds => absurd founds nothing, nofun,
    fun _ _ clones => absurd clones.1 nothing, ?_, nofun⟩
  rintro _ ⟨n, takes, -⟩
  exact absurd takes nothing

/-- A handle that was there before a step is cancelled by it if one of its family is. -/
theorem Tracks.tells_of_lt (tracks : Tracks history r) (steps : r.Steps step r')
    (there : handle < r.handles.length) :
    r'.Tells handle (∃ other, CancelHistory.Cancels (history ++ [step]) other ∧
      r'.Together other handle) := by
  obtain ⟨b, flag, told⟩ := tracks.tells handle there
  refine ⟨b || r.cancels handle step, ?_, ?_⟩
  · rw [steps.flag? flag]
    cases r.cancels handle step <;> simp [CancelFlag.cancel]
  · rw [Bool.or_eq_true, told, cancels_iff there]
    constructor
    · rintro (⟨other, cancels, together⟩ | ⟨other, rfl, together⟩)
      · exact ⟨other, CancelHistory.cancels_concat.2 (.inl cancels), steps.together together⟩
      · exact ⟨other, CancelHistory.cancels_concat.2 (.inr ⟨rfl, tracks.count ▸ together.lt⟩),
          steps.together together⟩
    · rintro ⟨other, cancels, together⟩
      rcases CancelHistory.cancels_concat.1 cancels with cancels | ⟨rfl, lt⟩
      · have lt := tracks.cancels other cancels
        exact .inl ⟨other, cancels, (steps.together_iff lt there).1 together⟩
      · exact .inr ⟨other, rfl, (steps.together_iff (tracks.count ▸ lt) there).1 together⟩

/-- A handle that a step has made tells what the handle that it is cloned from does, or nothing. -/
theorem Tracks.tells_of_made (tracks : Tracks history r) (steps : r.Steps step r')
    (made : r.handles.length < r'.handles.length) :
    r'.Tells r.handles.length (∃ other, CancelHistory.Cancels (history ++ [step]) other ∧
      r'.Together other r.handles.length) := by
  cases steps with
  | fresh =>
      refine ⟨false, ?_, iff_of_false nofun ?_⟩
      · simp [CancelRegistry.flag?, CancelFlag.clear]
      · rintro ⟨other, cancels, family, here, there⟩
        rcases CancelHistory.cancels_concat.1 cancels with cancels | ⟨same, -⟩
        · rw [List.getElem?_append_left (tracks.cancels other cancels)] at here
          have older := tracks.family family (List.mem_of_getElem? here)
          obtain rfl : r.families.length = family := by simpa using there
          exact Nat.lt_irrefl _ older
        · simp at same
  | @cloned source family here =>
      have there : source < r.handles.length := (List.getElem?_eq_some_iff.1 here).1
      have steps : r.Steps (.clone source) { r with handles := r.handles ++ [family] } :=
        .cloned here
      have together := steps.together_clone there
      obtain ⟨b, flag, told⟩ := tracks.tells_of_lt steps there
      refine ⟨b, together.flag?.symm.trans flag, told.trans ?_⟩
      constructor
      · rintro ⟨other, cancels, kin⟩
        exact ⟨other, cancels, kin.trans together⟩
      · rintro ⟨other, cancels, kin⟩
        exact ⟨other, cancels, kin.trans together.symm⟩
  | cancelled | noSource | noTarget => exact absurd made (Nat.lt_irrefl _)

theorem Tracks.family_step (tracks : Tracks history r) (steps : r.Steps step r') :
    ∀ family ∈ r'.handles, family < r'.families.length := by
  have family := tracks.family
  cases steps with
  | fresh =>
      intro other mem
      rw [List.length_append, List.length_singleton]
      rcases List.mem_append.1 mem with mem | mem
      · exact Nat.lt_succ_of_lt (family other mem)
      · obtain rfl := List.mem_singleton.1 mem
        exact Nat.lt_succ_self _
  | cloned there =>
      intro other mem
      rcases List.mem_append.1 mem with mem | mem
      · exact family other mem
      · obtain rfl := List.mem_singleton.1 mem
        exact family _ (List.mem_of_getElem? there)
  | cancelled =>
      intro other mem
      rw [List.length_modify]
      exact family other mem
  | noSource | noTarget => exact family

/-- The handles of a family after one more handle. -/
theorem getElem?_concat_iff {handles : List Nat} {family family' : Nat} :
    (handles ++ [family'])[handle]? = some family ↔
      handles[handle]? = some family ∨ handle = handles.length ∧ family' = family := by
  rcases Nat.lt_trichotomy handle handles.length with lt | rfl | gt
  · simp [List.getElem?_append_left lt, Nat.ne_of_lt lt]
  · simp
  · have beyond : (handles ++ [family']).length ≤ handle := by
      rw [List.length_append]
      exact gt
    simp [List.getElem?_eq_none beyond, List.getElem?_eq_none (Nat.le_of_lt gt), Nat.ne_of_gt gt]

/-- A new family is founded by its only handle, and a clone descends from the founder of the family
that it joins. -/
theorem Tracks.founder_step (tracks : Tracks history r) (steps : r.Steps step r') :
    ∀ family < r'.families.length,
      ∃ founder, CancelHistory.Founds (history ++ [step]) founder ∧
        ∀ handle : Nat, r'.handles[handle]? = some family →
          CancelHistory.Descends (history ++ [step]) founder handle := by
  have kept (family : Nat) (lt : family < r.families.length) :
      ∃ founder, CancelHistory.Founds (history ++ [step]) founder ∧
        ∀ handle : Nat, r.handles[handle]? = some family →
          CancelHistory.Descends (history ++ [step]) founder handle := by
    obtain ⟨founder, founds, descends⟩ := tracks.founder family lt
    exact ⟨founder, CancelHistory.founds_concat.2 (.inl founds),
      fun handle member => CancelHistory.descends_concat (descends handle member)⟩
  cases steps with
  | fresh =>
      intro family lt
      rw [List.length_append, List.length_singleton] at lt
      rcases Nat.lt_succ_iff_lt_or_eq.1 lt with lt | rfl
      · obtain ⟨founder, founds, descends⟩ := kept family lt
        refine ⟨founder, founds, fun handle member => ?_⟩
        rcases getElem?_concat_iff.1 member with member | ⟨-, rfl⟩
        · exact descends handle member
        · exact absurd lt (Nat.lt_irrefl _)
      · have founds : CancelHistory.Founds (history ++ [.fresh]) history.count :=
          CancelHistory.founds_concat.2 (.inr ⟨rfl, rfl⟩)
        refine ⟨history.count, founds, fun handle member => ?_⟩
        rcases getElem?_concat_iff.1 member with member | ⟨rfl, -⟩
        · exact absurd (tracks.family _ (List.mem_of_getElem? member)) (Nat.lt_irrefl _)
        · rw [tracks.count]
  | @cloned source _ there =>
      intro family lt
      obtain ⟨founder, founds, descends⟩ := kept family lt
      refine ⟨founder, founds, fun handle member => ?_⟩
      rcases getElem?_concat_iff.1 member with member | ⟨rfl, rfl⟩
      · exact descends handle member
      · have clones : CancelHistory.Clones (history ++ [.clone source]) source r.handles.length :=
          CancelHistory.clones_concat.2
            (.inr ⟨rfl, tracks.count.symm, (List.getElem?_eq_some_iff.1 there).1⟩)
        exact (descends source there).tail clones
  | cancelled => simpa only [List.length_modify] using kept
  | noSource | noTarget => exact kept

/-- A step keeps the registry in agreement with what has been done. -/
theorem Tracks.steps (tracks : Tracks history r) (steps : r.Steps step r') :
    Tracks (history ++ [step]) r' := by
  refine ⟨?_, tracks.family_step steps, ?_, tracks.founder_step steps, ?_, ?_, ?_⟩
  · rw [CancelHistory.count_concat, ← tracks.count, steps.length]
  · intro handle founds
    rcases CancelHistory.founds_concat.1 founds with founds | ⟨rfl, rfl⟩
    · exact Nat.lt_of_lt_of_le (tracks.founds handle founds) steps.length_le
    · rw [steps.length, tracks.count]
      exact Nat.lt_succ_self _
  · intro parent child clones
    rcases CancelHistory.clones_concat.1 clones with clones | ⟨rfl, rfl, there⟩
    · exact steps.together (tracks.clones parent child clones)
    · rw [← tracks.count] at there ⊢
      exact steps.together_clone there
  · intro handle cancels
    refine Nat.lt_of_lt_of_le ?_ steps.length_le
    rcases CancelHistory.cancels_concat.1 cancels with cancels | ⟨-, lt⟩
    · exact tracks.cancels handle cancels
    · rwa [tracks.count]
  · intro handle there
    by_cases older : handle < r.handles.length
    · exact tracks.tells_of_lt steps older
    · have bound := steps.length_le_succ
      obtain rfl : handle = r.handles.length := by omega
      exact tracks.tells_of_made steps there

/-- What has been done decides about every registry that comes of it. -/
theorem tracks_after (history : CancelHistory) : Tracks history (after history) := by
  induction history using List.reverseRecOn with
  | nil => exact tracks_nil
  | append_singleton history step ih =>
      rw [after_concat]
      exact ih.steps (steps_step _ step)

/-- Kin are the handles of one family. -/
theorem Tracks.kin_iff (tracks : Tracks history r) :
    history.Kin handle other ↔ r.Together handle other := by
  have together_of_descends {founder : Nat} (founds : history.Founds founder) {handle : Nat}
      (descends : history.Descends founder handle) : r.Together founder handle := by
    induction descends with
    | refl => exact together_self (tracks.founds founder founds)
    | tail _ clones ih => exact ih.trans (tracks.clones _ _ clones)
  constructor
  · rintro ⟨founder, founds, here, there⟩
    exact (together_of_descends founds here).symm.trans (together_of_descends founds there)
  · rintro ⟨family, here, there⟩
    obtain ⟨founder, founds, descends⟩ :=
      tracks.founder family (tracks.family family (List.mem_of_getElem? here))
    exact ⟨founder, founds, descends handle here, descends other there⟩

end Tracks

end CancelRegistry

/-- Handles as they are laid out: a cell for each record, a cell for each signal, and for each
handle the two cells that it refers to. -/
structure CancelCells where
  records : List Bool
  signals : List Bool
  handles : List (Nat × Nat)

namespace CancelCells

/-- Does one thing. A clone refers to the cells of the handle that it is cloned from. -/
def step (c : CancelCells) : CancelStep → CancelCells
  | .fresh =>
    ⟨c.records ++ [false], c.signals ++ [false],
      c.handles ++ [(c.records.length, c.signals.length)]⟩
  | .clone h =>
    match c.handles[h]? with
    | some cells => { c with handles := c.handles ++ [cells] }
    | none => c
  | .cancel h =>
    match c.handles[h]? with
    | some (record, signal) =>
      { c with records := c.records.set record true, signals := c.signals.set signal true }
    | none => c

/-- The cells after some steps. -/
def after (history : CancelHistory) : CancelCells :=
  history.foldl step ⟨[], [], []⟩

/-- What is on record for a handle. -/
def record? (c : CancelCells) (handle : Nat) : Option Bool :=
  c.handles[handle]?.bind fun cells => c.records[cells.1]?

/-- Whether those who wait on a handle have been called. -/
def signal? (c : CancelCells) (handle : Nat) : Option Bool :=
  c.handles[handle]?.bind fun cells => c.signals[cells.2]?

end CancelCells

namespace CancelRegistry

variable {r r' : CancelRegistry} {history : CancelHistory} {step : CancelStep} {handle other : Nat}

section Cells

/-- The cells of a registry, two for each family. -/
def cells (r : CancelRegistry) : CancelCells where
  records := r.families.map CancelFlag.requested
  signals := r.families.map CancelFlag.signalled
  handles := r.handles.map fun family => (family, family)

theorem map_modify_cancel (part : CancelFlag → Bool) (sets : ∀ f : CancelFlag, part f.cancel = true)
    (families : List CancelFlag) (family : Nat) :
    (families.modify family .cancel).map part = (families.map part).set family true := by
  induction families generalizing family with
  | nil => simp
  | cons f families ih =>
      cases family with
      | zero => simp [sets]
      | succ family => simp [ih]

/-- Handles share two cells as they share one flag. -/
theorem Steps.cells (steps : r.Steps step r') : r'.cells = r.cells.step step := by
  have missing_cells {handle : Nat} (missing : r.handles.length ≤ handle) :
      r.cells.handles[handle]? = none := by
    simpa [CancelRegistry.cells] using missing
  have there_cells {handle family : Nat} (there : r.handles[handle]? = some family) :
      r.cells.handles[handle]? = some (family, family) := by
    simp [CancelRegistry.cells, there]
  cases steps with
  | fresh => simp [CancelRegistry.cells, CancelCells.step, CancelFlag.clear]
  | cloned there =>
      simp only [CancelCells.step, there_cells there]
      simp [CancelRegistry.cells]
  | @cancelled _ family there =>
      simp only [CancelCells.step, there_cells there]
      have records := map_modify_cancel CancelFlag.requested (fun _ => rfl) r.families family
      have signals := map_modify_cancel CancelFlag.signalled (fun _ => rfl) r.families family
      simp only [CancelRegistry.cells, records, signals]
  | noSource missing | noTarget missing =>
      simp only [CancelCells.step, missing_cells missing]

theorem cells_after (history : CancelHistory) :
    (after history).cells = CancelCells.after history := by
  induction history using List.reverseRecOn with
  | nil => rfl
  | append_singleton history step ih =>
      rw [after_concat, (steps_step _ step).cells, ih]
      exact (List.foldl_concat ..).symm

theorem record?_cells (r : CancelRegistry) (handle : Nat) :
    r.cells.record? handle = (r.flag? handle).map CancelFlag.requested := by
  simp only [CancelCells.record?, cells, flag?, List.getElem?_map]
  cases r.handles[handle]? <;> simp

theorem signal?_cells (r : CancelRegistry) (handle : Nat) :
    r.cells.signal? handle = (r.flag? handle).map CancelFlag.signalled := by
  simp only [CancelCells.signal?, cells, flag?, List.getElem?_map]
  cases r.handles[handle]? <;> simp

end Cells

theorem getElem?_requested {f : CancelFlag} (flag : r.flag? handle = some f) :
    r.requested[handle]? = some f.requested := by
  obtain ⟨family, there, held⟩ := flag?_eq_some flag
  simp [requested, there, held]

/-- Cancelling a handle that tells that it has been cancelled changes nothing. -/
theorem step_cancel_of_signalled (flag : r.flag? handle = some ⟨true, true⟩) :
    r.step (.cancel handle) = r := by
  obtain ⟨family, there, held⟩ := flag?_eq_some flag
  have same : r.families.modify family .cancel = r.families := by
    apply List.ext_getElem?
    intro i
    rw [List.getElem?_modify]
    by_cases here : family = i
    · simp [← here, held, CancelFlag.cancel]
    · simp [here]
  simp only [CancelRegistry.step, there, same]

/-- Cancelling a handle changes nothing outside its family. -/
theorem flag?_cancel_of_apart (apart : ¬ r.Together handle other) :
    (r.step (.cancel handle)).flag? other = r.flag? other := by
  cases here : r.handles[handle]? with
  | none => simp only [CancelRegistry.step, here]
  | some family =>
      cases there : r.handles[other]? with
      | none => simp only [CancelRegistry.step, here, CancelRegistry.flag?, there]
      | some family' =>
          have different : family ≠ family' := by
            rintro rfl
            exact apart ⟨family, here, there⟩
          simp only [CancelRegistry.step, here, CancelRegistry.flag?, there,
            List.getElem?_modify_ne _ _ different]

/-- **A cancel reaches the whole family and nobody else.** After any steps each handle tells that a
cancel has been requested exactly if some handle that is kin to it has been cancelled, whoever was
cloned from whom, before or after. What is on record for a handle and what those who wait on it
have been told is the same. Once one of a family has been cancelled, to cancel any of it changes
nothing, and to cancel a handle changes nothing for those that are no kin to it. -/
theorem cancelled_with_kin (history : CancelHistory) :
    (after history).requested.length = history.count ∧
    (∀ handle < history.count, ∃ b,
      (after history).requested[handle]? = some b ∧
      (after history).flag? handle = some ⟨b, b⟩ ∧
      (CancelCells.after history).record? handle = some b ∧
      (CancelCells.after history).signal? handle = some b ∧
      (b = true ↔ ∃ other, history.Cancels other ∧ history.Kin other handle)) ∧
    (∀ handle other, history.Cancels other → history.Kin other handle →
      (after history).step (.cancel handle) = after history ∧
      (CancelCells.after history).step (.cancel handle) = CancelCells.after history) ∧
    ∀ handle other, ¬ history.Kin handle other →
      ((after history).step (.cancel handle)).flag? other = (after history).flag? other ∧
      ((CancelCells.after history).step (.cancel handle)).record? other =
        (CancelCells.after history).record? other ∧
      ((CancelCells.after history).step (.cancel handle)).signal? other =
        (CancelCells.after history).signal? other := by
  have tracks := tracks_after history
  refine ⟨?_, fun handle there => ?_, fun handle other cancels kin => ?_,
    fun handle other strange => ?_⟩
  · rw [requested, List.length_map, tracks.count]
  · obtain ⟨b, flag, told⟩ := tracks.tells handle (tracks.count ▸ there)
    refine ⟨b, getElem?_requested flag, flag, ?_, ?_, told.trans ?_⟩
    · rw [← cells_after, record?_cells, flag, Option.map_some]
    · rw [← cells_after, signal?_cells, flag, Option.map_some]
    · simp only [tracks.kin_iff]
  · rw [tracks.kin_iff] at kin
    obtain ⟨b, flag, told⟩ := tracks.tells handle kin.symm.lt
    obtain rfl := told.2 ⟨other, cancels, kin⟩
    have same := step_cancel_of_signalled flag
    refine ⟨same, ?_⟩
    rw [← cells_after, ← (steps_step _ _).cells, same]
  · have same := flag?_cancel_of_apart fun together => strange (tracks.kin_iff.2 together)
    rw [← cells_after, ← (steps_step _ _).cells]
    simp only [record?_cells, signal?_cells, same, and_self]

/-- A handle and a clone of it, which is cancelled twice, then a second family of two, between which
the first handle is cloned once more. The late clone tells of the cancel, and to cancel it changes
nothing. The second family is not concerned. -/
theorem cancelled_with_kin_late :
    let history : CancelHistory :=
      [.fresh, .clone 0, .cancel 1, .cancel 1, .fresh, .clone 0, .clone 2]
    3 < history.count ∧ history.Cancels 1 ∧ history.Kin 1 3 ∧ ¬ history.Kin 3 4 ∧
      (after history).flag? 3 = some ⟨true, true⟩ ∧
      (CancelCells.after history).signal? 3 = some true ∧
      (after history).step (.cancel 3) = after history ∧
      ((after history).step (.cancel 3)).flag? 4 = (after history).flag? 4 := by
  intro history
  obtain ⟨-, tells, again, apart⟩ := cancelled_with_kin history
  have cancels : history.Cancels 1 := ⟨2, ⟨[.fresh, .clone 0], _, rfl, rfl⟩, by decide⟩
  have first : history.Clones 0 1 := ⟨⟨[.fresh], _, rfl, rfl⟩, by decide⟩
  have late : history.Clones 0 3 :=
    ⟨⟨[.fresh, .clone 0, .cancel 1, .cancel 1, .fresh], _, rfl, rfl⟩, by decide⟩
  have kin : history.Kin 1 3 := ⟨0, ⟨[], _, rfl, rfl⟩, .single first, .single late⟩
  have strange : ¬ history.Kin 3 4 := by
    intro kin
    obtain ⟨family, here, there⟩ := (tracks_after history).kin_iff.1 kin
    have different : (after history).handles[3]? ≠ (after history).handles[4]? := by decide
    exact different (here.trans there.symm)
  obtain ⟨b, -, flag, -, signal, told⟩ := tells 3 (by decide)
  obtain rfl := told.2 ⟨1, cancels, kin⟩
  exact ⟨by decide, cancels, kin, strange, flag, signal, (again 3 1 cancels kin).1,
    (apart 3 4 strange).1⟩

end CancelRegistry

end DuplexStream
