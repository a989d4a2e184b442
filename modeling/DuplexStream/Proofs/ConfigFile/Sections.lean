import DuplexStream.ConfigFile.Reading
import DuplexStream.Proofs.Toml.Tree

/-!
# The sections of a configuration file

A table of different keys sets each field of a section at most once: a field has the value at its
key if the key is there, and keeps what it had if not. Whether a table is taken depends on its keys
and values alone: each key has to be known and its value of the key's kind. So the sections of a
file are told by a list of names with kinds (`ConfigFile.sections`), and a tree with anything
outside them is no configuration file.
-/

namespace DuplexStream

open Toml (Node Entries Holds Beneath)

namespace SectionKey

section Taking

variable {σ κ : Type} {reads : κ → Node → Bool} {keys : List (SectionKey σ)}
  {kinds : List (String × κ)}

theorem setNamed_cons (e : String × Node) (es : Entries) (s : σ) :
    setNamed keys (e :: es) s =
      (keys.find? (·.name == e.1)).bind fun k => (k.set e.2 s).bind (setNamed keys es) := by
  rw [setNamed]
  cases keys.find? (·.name == e.1) with
  | none => rfl
  | some k => cases h : k.set e.2 s <;> simp [h]

/-- A key takes the values of a kind, whatever the section is so far. -/
def Takes (reads : κ → Node → Bool) (k : SectionKey σ) (kind : κ) : Prop :=
  ∀ v s, (k.set v s).isSome = reads kind v

/-- A key has its name and its kind. -/
def Listens (reads : κ → Node → Bool) (k : SectionKey σ) (e : String × κ) : Prop :=
  k.name = e.1 ∧ k.Takes reads e.2

/-- The key of a name has the kind of the name. -/
theorem rel_find? (listens : List.Forall₂ (Listens reads) keys kinds) (name : String) :
    Option.Rel (Takes reads) (keys.find? (·.name == name)) (kinds.lookup name) := by
  induction listens with
  | nil => exact .none
  | @cons k e keys kinds first others ih =>
      obtain ⟨key, kind⟩ := e
      obtain ⟨same, takes⟩ := first
      rw [List.find?_cons, List.lookup_cons, same]
      by_cases here : key = name
      · simpa [here] using Option.Rel.some takes
      · have there : (name == key) = false := beq_eq_false_iff_ne.2 (Ne.symm here)
        have other : (key == name) = false := beq_eq_false_iff_ne.2 here
        simpa [other, there] using ih

/-- A table is taken if each of its keys is known, with a value of the key's kind. -/
theorem isSome_setNamed (listens : List.Forall₂ (Listens reads) keys kinds) (es : Entries) (s : σ) :
    (setNamed keys es s).isSome = es.all fun e => (kinds.lookup e.1).any (reads · e.2) := by
  induction es generalizing s with
  | nil => rfl
  | cons e es ih =>
      have known := rel_find? listens e.1
      rw [setNamed_cons, List.all_cons]
      generalize keys.find? (·.name == e.1) = k?, kinds.lookup e.1 = kind? at known
      cases known with
      | none => rfl
      | @some k kind takes =>
          rw [Option.bind_some, Option.any_some, ← takes e.2 s]
          cases k.set e.2 s with
          | none => rfl
          | some next => exact ih next

theorem isSome_setListed (listens : List.Forall₂ (Listens reads) keys kinds) (items : List Node)
    (s : σ) :
    (setListed keys items s).isSome = (kinds.zip items).all fun p => reads p.1.2 p.2 := by
  induction listens generalizing items s with
  | nil => cases items <;> rfl
  | @cons k e keys kinds first others ih =>
      cases items with
      | nil => rfl
      | cons v items =>
          rw [setListed, List.zip_cons_cons, List.all_cons, ← first.2 v s]
          cases k.set v s with
          | none => rfl
          | some next => exact ih items next

end Taking

section Setting

variable {σ β : Type} {keys : List (SectionKey σ)} {es : Entries} {s s' : σ} {name : String}
  {read : Node → Option β} {get : σ → β}

/-- Among some keys only those of a certain name change a certain field, and set it to what they
read. -/
structure Sets (keys : List (SectionKey σ)) (name : String) (read : Node → Option β) (get : σ → β) :
    Prop where
  here : ∀ k ∈ keys, k.name = name → ∀ v s, (k.set v s).map get = read v
  elsewhere : ∀ k ∈ keys, k.name ≠ name → ∀ v s,
    (k.set v s).map get = (k.set v s).map fun _ => get s

/-- A field after a table has been taken: what is at its key, or else what it was. -/
theorem Sets.elim_get? (sets : Sets keys name read get) (distinct : es.names.Nodup)
    (done : setNamed keys es s = some s') :
    (es.get? name).elim (some (get s)) read = some (get s') := by
  induction es generalizing s with
  | nil =>
      obtain rfl := Option.some.inj done
      rfl
  | cons e es ih =>
      rw [setNamed_cons] at done
      obtain ⟨k, found, done⟩ := Option.bind_eq_some_iff.1 done
      obtain ⟨next, first, rest⟩ := Option.bind_eq_some_iff.1 done
      have named : k.name = e.1 := by simpa using List.find?_some found
      have listed := List.mem_of_find?_eq_some found
      obtain ⟨new, others⟩ := List.nodup_cons.1 distinct
      have later := ih others rest
      rw [Entries.get?_cons]
      by_cases same : e.1 = name
      · -- the key does not come again, so nothing changes the field any more
        have absent : Entries.get? es name = none := Entries.get?_eq_none_iff.2 (same ▸ new)
        have now := sets.here k listed (named.trans same) e.2 s
        rw [first, Option.map_some] at now
        rw [absent] at later
        rw [if_pos same, Option.elim_some, ← now]
        exact later
      · have kept := sets.elsewhere k listed (fun h => same (named.symm.trans h)) e.2 s
        rw [first, Option.map_some, Option.map_some] at kept
        rw [if_neg same, ← kept]
        exact later

end Setting

end SectionKey

open SectionKey (Listens Sets setAll setNamed setListed)

/-- What a key of a section takes. -/
inductive ValueKind where
  | count
  | word
  | share
  | truth
  deriving DecidableEq

/-- The values of a kind. -/
def ValueKind.reads (kind : ValueKind) (v : Node) : Bool :=
  match kind with
  | count => v.count?.isSome
  | word => v.word?.isSome
  | share => v.real?.isSome
  | truth => v.boolean?.isSome

/-- What a section with some keys is made of: a table of them, or an array in their order. -/
def readsSection (kinds : List (String × ValueKind)) : Node → Bool
  | .table _ es => es.all fun e => (kinds.lookup e.1).any (·.reads e.2)
  | .array items => (kinds.zip items).all fun p => p.1.2.reads p.2
  | _ => false

/-- A kind is found only where it is listed. -/
theorem mem_of_lookup {κ : Type} {kinds : List (String × κ)} {name : String} {kind : κ}
    (listed : kinds.lookup name = some kind) : (name, kind) ∈ kinds := by
  obtain ⟨front, rest, rfl, -⟩ := List.lookup_eq_some_iff.1 listed
  exact List.mem_append_right _ List.mem_cons_self

theorem isSome_setAll {σ : Type} {keys : List (SectionKey σ)} {kinds : List (String × ValueKind)}
    (listens : List.Forall₂ (Listens ValueKind.reads) keys kinds) (v : Node) (s : σ) :
    (setAll keys v s).isSome = readsSection kinds v := by
  cases v with
  | table _ es => exact SectionKey.isSome_setNamed listens es s
  | array items => exact SectionKey.isSome_setListed listens items s
  | _ => rfl

namespace ConfigFile

/-- The sections with their keys. -/
def sections : List (String × List (String × ValueKind)) :=
  [("reconnect",
      [("max_retries", .count), ("transport_backoff_ms", .word), ("other_backoff_ms", .word),
        ("cooldown_threshold", .count), ("cooldown_ms", .word)]),
    ("session",
      [("drop_probability", .share), ("write_poll_ms", .word), ("channel_buffer", .word),
        ("seed", .word)]),
    ("channel", [("connect_timeout_ms", .word), ("keep_alive", .truth)])]

theorem listens_ofSection {σ : Type} {name : String} {keys : List (SectionKey σ)} {initial : σ}
    {put : σ → ConfigFile → ConfigFile} {kinds : List (String × ValueKind)}
    (listens : List.Forall₂ (Listens ValueKind.reads) keys kinds) :
    Listens readsSection (.ofSection name keys initial put) (name, kinds) :=
  ⟨rfl, fun v c => by rw [SectionKey.ofSection, Option.isSome_map, isSome_setAll listens]⟩

theorem listens_keys : List.Forall₂ (Listens readsSection) keys sections := by
  refine .cons (listens_ofSection ?_) (.cons (listens_ofSection ?_)
    (.cons (listens_ofSection ?_) .nil)) <;>
  · repeat refine .cons ⟨rfl, fun v s => Option.isSome_map⟩ ?_
    exact .nil

/-- Which trees are configuration files. -/
theorem isSome_ofEntries (es : Entries) :
    (ofEntries es).isSome = es.all fun e => (sections.lookup e.1).any (readsSection · e.2) :=
  SectionKey.isSome_setNamed listens_keys es default

end ConfigFile

section Outside

variable {kind : ValueKind} {kinds : List (String × ValueKind)} {v : Node} {es : Entries}
  {key : String} {path : List String} {text : String}

/-- There is nothing below a value of a key. -/
theorem ValueKind.path_eq_nil (reads : kind.reads v = true) (below : Beneath path v) :
    path = [] := by
  cases v with
  | table => cases kind <;> cases reads
  | tables => cases kind <;> cases reads
  | _ => exact below

/-- What is below a section is below one of its keys. -/
theorem exists_lookup_of_beneath (reads : readsSection kinds v = true)
    (below : Beneath (key :: path) v) :
    ∃ w kind, kinds.lookup key = some kind ∧ kind.reads w = true ∧ Beneath path w := by
  cases v with
  | table _ es =>
      obtain ⟨w, there, under⟩ := Toml.holds_cons_iff.1 below
      have read := List.all_eq_true.1 reads _ (Entries.mem_of_get? there)
      obtain ⟨kind, listed, read⟩ := (Option.any_eq_true _ _).1 read
      exact ⟨w, kind, listed, read, under⟩
  | tables => cases reads
  | _ => cases below

namespace ConfigFile

/-- There may be something at a path of a file: the path names a section or one of its keys. -/
def knows : List String → Bool
  | [] => true
  | [name] => (sections.lookup name).isSome
  | [name, key] => (sections.lookup name).any fun kinds => (kinds.lookup key).isSome
  | _ => false

/-- A configuration file holds only what is known. -/
theorem knows_of_holds (taken : (ofEntries es).isSome) (there : Holds path es) :
    knows path = true := by
  cases path with
  | nil => rfl
  | cons name path =>
      obtain ⟨v, found, below⟩ := Toml.holds_cons_iff.1 there
      rw [isSome_ofEntries] at taken
      have read := List.all_eq_true.1 taken _ (Entries.mem_of_get? found)
      obtain ⟨kinds, listed, read⟩ := (Option.any_eq_true _ _).1 read
      cases path with
      | nil => simp [knows, listed]
      | cons key path =>
          obtain ⟨w, kind, listed', read', below'⟩ := exists_lookup_of_beneath read below
          obtain rfl := kind.path_eq_nil read' below'
          simp [knows, listed, listed']

/-- A text whose tree holds anything else is refused. -/
theorem parse_of_holds (tree : Toml.parse? text = some es) (there : Holds path es)
    (unknown : knows path = false) : parse text = .error .malformed := by
  refine parse_eq_malformed ?_
  rw [tree, Option.bind_some, ← Option.not_isSome_iff_eq_none]
  intro taken
  simp [knows_of_holds taken there] at unknown

/-- A text with a line that names anything else is refused. -/
theorem parse_of_places {lines : List Toml.Statement}
    (read : Toml.readStatements (Toml.dropMark text.toList) = some lines)
    (named : path ∈ Toml.places [] lines) (unknown : knows path = false) :
    parse text = .error .malformed := by
  have tree : Toml.parse? text = Toml.entriesOf lines := by rw [Toml.parse?, read]
  cases made : Toml.entriesOf lines with
  | none => exact parse_eq_malformed (by rw [tree, made, Option.bind_none])
  | some es => exact parse_of_holds (tree.trans made) (Toml.holds_of_entriesOf made _ named) unknown

end ConfigFile

end Outside

section Fields

theorem RetryValues.sets :
    Sets keys "max_retries" Node.count? maxRetries ∧
      Sets keys "transport_backoff_ms" Node.word? transportBackoff ∧
      Sets keys "other_backoff_ms" Node.word? otherBackoff ∧
      Sets keys "cooldown_threshold" Node.count? cooldownThreshold ∧
      Sets keys "cooldown_ms" Node.word? cooldown := by
  refine ⟨?_, ?_, ?_, ?_, ?_⟩ <;> constructor <;> simp [keys, Function.comp_def]

theorem SessionValues.sets :
    Sets keys "drop_probability" Node.real? dropProbability ∧
      Sets keys "write_poll_ms" Node.word? writePoll ∧
      Sets keys "channel_buffer" Node.word? channelBuffer ∧
      Sets keys "seed" (fun v => v.word?.map some) seed := by
  refine ⟨?_, ?_, ?_, ?_⟩ <;> constructor <;> simp [keys, Function.comp_def]

theorem ConnectionValues.sets :
    Sets keys "connect_timeout_ms" Node.word? timeLimit ∧
      Sets keys "keep_alive" Node.boolean? keepAlive := by
  refine ⟨?_, ?_⟩ <;> constructor <;> simp [keys, Function.comp_def]

theorem ConfigFile.sets :
    Sets keys "reconnect" (setAll RetryValues.keys · .default) reconnect ∧
      Sets keys "session" (setAll SessionValues.keys · .default) session ∧
      Sets keys "channel" (setAll ConnectionValues.keys · .default) channel := by
  refine ⟨?_, ?_, ?_⟩ <;> constructor <;> simp [keys, SectionKey.ofSection, Function.comp_def]

end Fields

end DuplexStream
