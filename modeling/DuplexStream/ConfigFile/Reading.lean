import DuplexStream.ConfigFile.Basic
import DuplexStream.Toml.Document

/-!
# Reading a configuration file

Each section lists its keys: how a key is called and what a value at it changes. A section is
usually a table, whose keys may come in any order; it may also be an array, whose items stand for
the keys in their listed order. A key that is not listed is refused, and so is a value of the wrong
kind or size.
-/

namespace DuplexStream

open Toml (Node Entries)

/-- A key of a section: its name, and what a value at it makes of the section. -/
structure SectionKey (σ : Type) where
  name : String
  set : Node → σ → Option σ

namespace SectionKey

variable {σ : Type}

/-- Sets the values at the keys of a table. -/
def setNamed (keys : List (SectionKey σ)) : Entries → σ → Option σ
  | [], s => some s
  | (name, node) :: rest, s =>
    match keys.find? fun k => k.name == name with
    | some k =>
      match k.set node s with
      | some s' => setNamed keys rest s'
      | none => none
    | none => none

/-- Sets the values of an array, the first one at the first key. Values beyond the last key are
left alone. -/
def setListed : List (SectionKey σ) → List Node → σ → Option σ
  | k :: keys, node :: nodes, s =>
    match k.set node s with
    | some s' => setListed keys nodes s'
    | none => none
  | _, _, s => some s

/-- Sets the values of a section. -/
def setAll (keys : List (SectionKey σ)) (node : Node) (s : σ) : Option σ :=
  match node with
  | .table _ entries => setNamed keys entries s
  | .array items => setListed keys items s
  | _ => none

end SectionKey

namespace Toml.Node

/-- The value as a 64-bit word. -/
def word? : Node → Option UInt64
  | .integer n => if 0 ≤ n ∧ n < UInt64.size then some (UInt64.ofNat n.toNat) else none
  | _ => none

/-- The value as a 32-bit count. -/
def count? : Node → Option UInt32
  | .integer n => if 0 ≤ n ∧ n < UInt32.size then some (UInt32.ofNat n.toNat) else none
  | _ => none

/-- The value as a real number. A whole number is one too. -/
def real? : Node → Option Binary64
  | .real x => some x
  | .integer n => some (.ofInt n)
  | _ => none

/-- The value as a truth value. -/
def boolean? : Node → Option Bool
  | .boolean b => some b
  | _ => none

end Toml.Node

/-- The keys of the section about retries. -/
def RetryValues.keys : List (SectionKey RetryValues) :=
  [⟨"max_retries", fun v s => v.count?.map fun n => { s with maxRetries := n }⟩,
    ⟨"transport_backoff_ms", fun v s => v.word?.map fun n => { s with transportBackoff := n }⟩,
    ⟨"other_backoff_ms", fun v s => v.word?.map fun n => { s with otherBackoff := n }⟩,
    ⟨"cooldown_threshold", fun v s => v.count?.map fun n => { s with cooldownThreshold := n }⟩,
    ⟨"cooldown_ms", fun v s => v.word?.map fun n => { s with cooldown := n }⟩]

/-- The keys of the section about sessions. -/
def SessionValues.keys : List (SectionKey SessionValues) :=
  [⟨"drop_probability", fun v s => v.real?.map fun p => { s with dropProbability := p }⟩,
    ⟨"write_poll_ms", fun v s => v.word?.map fun n => { s with writePoll := n }⟩,
    ⟨"channel_buffer", fun v s => v.word?.map fun n => { s with channelBuffer := n }⟩,
    ⟨"seed", fun v s => v.word?.map fun n => { s with seed := some n }⟩]

/-- The keys of the section about connecting. -/
def ConnectionValues.keys : List (SectionKey ConnectionValues) :=
  [⟨"connect_timeout_ms", fun v s => v.word?.map fun n => { s with timeLimit := n }⟩,
    ⟨"keep_alive", fun v s => v.boolean?.map fun b => { s with keepAlive := b }⟩]

/-- A section as a key of the file. -/
def SectionKey.ofSection {σ : Type} (name : String) (keys : List (SectionKey σ)) (initial : σ)
    (put : σ → ConfigFile → ConfigFile) : SectionKey ConfigFile :=
  ⟨name, fun v c => (setAll keys v initial).map fun s => put s c⟩

namespace ConfigFile

/-- The sections of the file. -/
def keys : List (SectionKey ConfigFile) :=
  [.ofSection "reconnect" RetryValues.keys .default fun s c => { c with reconnect := s },
    .ofSection "session" SessionValues.keys .default fun s c => { c with session := s },
    .ofSection "channel" ConnectionValues.keys .default fun s c => { c with channel := s }]

/-- The file of a document. -/
def ofEntries (entries : Entries) : Option ConfigFile :=
  SectionKey.setNamed keys entries default

/-- Reads the text of a file and checks its values. -/
def parse (text : String) : Except ConfigFileError ConfigFile :=
  match (Toml.parse? text).bind ofEntries with
  | some c =>
    match c.validate with
    | .ok _ => .ok c
    | .error e => .error e
  | none => .error .malformed

/-- A file is read only if it passes its check. -/
theorem parse_eq_ok_iff {text : String} {c : ConfigFile} :
    parse text = .ok c ↔ (Toml.parse? text).bind ofEntries = some c ∧ c.validate = .ok () := by
  simp only [parse]
  cases (Toml.parse? text).bind ofEntries with
  | none => simp
  | some c' =>
      simp only [Option.some.injEq]
      cases checked : c'.validate with
      | error e =>
          refine ⟨nofun, ?_⟩
          rintro ⟨rfl, valid⟩
          cases checked.symm.trans valid
      | ok =>
          refine ⟨fun same => ?_, fun same => congrArg Except.ok same.1⟩
          obtain rfl := Except.ok.inj same
          exact ⟨rfl, checked⟩

theorem parse_eq_malformed {text : String} (unread : (Toml.parse? text).bind ofEntries = none) :
    parse text = .error .malformed := by
  simp only [parse, unread]

end ConfigFile

end DuplexStream
