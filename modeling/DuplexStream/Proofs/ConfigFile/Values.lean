import DuplexStream.Proofs.Binary64.Whole
import DuplexStream.Proofs.ConfigFile.Sections
import DuplexStream.Proofs.Toml.Documents

/-!
# What a literal says at a key

A key of a kind allows some literals, and reads each of them as what is written. A literal that has
no value is a number that is too large; it can be written at a key for a number only, and does not
lie between zero and one.
-/

namespace DuplexStream

open Toml (Node Literal IntegerLiteral RealLiteral)

namespace Toml.Literal

/-- The whole number that is written. -/
def whole : Literal → Int
  | integer l => l.value
  | _ => 0

/-- The whole number as a 64-bit word. -/
def word (l : Literal) : UInt64 :=
  .ofNat l.whole.toNat

/-- The whole number as a 32-bit count. -/
def count (l : Literal) : UInt32 :=
  .ofNat l.whole.toNat

/-- The number that is written, as near as there is one. -/
def share : Literal → Binary64
  | integer l => .ofInt l.value
  | real l => l.value
  | boolean _ => .zero

/-- The truth value that is written. -/
def truth : Literal → Bool
  | boolean b => b
  | _ => false

/-- What is written is a number between zero and one. -/
def WithinUnit : Literal → Prop
  | integer l => 0 ≤ l.value ∧ l.value ≤ 1
  | real l => l.value.isNaN = false ∧ 0 ≤ l.value.value ∧ l.value.value ≤ 1
  | boolean _ => False

end Toml.Literal

/-- A literal can be written at a key: a whole number that is not negative and fits a signed word,
any number, or a truth value. -/
def ValueKind.Allows : ValueKind → Literal → Prop
  | count, .integer l => 0 ≤ l.value ∧ l.value < 2 ^ 63
  | word, .integer l => 0 ≤ l.value ∧ l.value < 2 ^ 63
  | share, .integer _ => True
  | share, .real _ => True
  | truth, .boolean _ => True
  | _, _ => False

section Literals

variable {l : Literal} {kind : ValueKind}

theorem node?_of_fits {l : IntegerLiteral} (fits : l.Fits) :
    (Literal.integer l).node? = some (.integer l.value) := if_pos fits

/-- A whole number that is not negative has a value if it lies below the bound. -/
theorem node?_integer {l : IntegerLiteral} (low : 0 ≤ l.value) (high : l.value < 2 ^ 63) :
    (Literal.integer l).node? = some (.integer l.value) := by
  have limit : (Toml.signedLimit : Int) = 2 ^ 63 := by decide
  exact node?_of_fits ⟨by omega, by omega⟩

theorem word?_node (allows : ValueKind.word.Allows l) : l.node.word? = some l.word := by
  cases l with
  | integer l =>
      obtain ⟨low, high⟩ := allows
      have size : (UInt64.size : Int) = 2 ^ 64 := by decide
      rw [Literal.node, node?_integer low high, Option.getD_some]
      exact if_pos ⟨low, by omega⟩
  | _ => cases allows

theorem count?_node (allows : ValueKind.count.Allows l) :
    l.node.count? = if l.whole < 2 ^ 32 then some l.count else none := by
  cases l with
  | integer l =>
      obtain ⟨low, high⟩ := allows
      have size : (UInt32.size : Int) = 2 ^ 32 := by decide
      rw [Literal.node, node?_integer low high, Option.getD_some, Node.count?, size]
      simp only [low, true_and]
      rfl
  | _ => cases allows

theorem real?_node (allows : ValueKind.share.Allows l) (valued : l.node?.isSome) :
    l.node.real? = some l.share := by
  cases l with
  | integer l =>
      have fits : l.Fits := by
        simpa [Literal.node?, IntegerLiteral.node?] using valued
      rw [Literal.node, node?_of_fits fits]
      rfl
  | real l =>
      cases l with
      | decimal sign digits canonical tail =>
          have finite : (RealLiteral.decimal sign digits canonical tail).value ≠
              .infinity false := by
            simpa [Literal.node?, RealLiteral.node?, Toml.finiteUp?] using valued
          rw [Literal.node, Literal.node?, RealLiteral.node?, Toml.finiteUp?, if_neg finite]
          rfl
      | infinity sign => rfl
      | nan sign => rfl
  | boolean b => cases allows

theorem boolean?_node (allows : ValueKind.truth.Allows l) : l.node.boolean? = some l.truth := by
  cases l with
  | boolean b => rfl
  | _ => cases allows

/-- What a key reads from the literals of a kind. -/
def ValueKind.Agrees {β : Type} (kind : ValueKind) (read : Node → Option β) (value : Literal → β) :
    Prop :=
  ∀ l, kind.Allows l → ∀ b, read l.node = some b → b = value l

theorem agrees_word : ValueKind.word.Agrees Node.word? Literal.word := by
  intro l allows b read
  rw [word?_node allows] at read
  exact (Option.some.inj read).symm

theorem agrees_count : ValueKind.count.Agrees Node.count? Literal.count := by
  intro l allows b read
  rw [count?_node allows] at read
  split at read
  · exact (Option.some.inj read).symm
  · cases read

theorem agrees_share : ValueKind.share.Agrees Node.real? Literal.share := by
  intro l allows b read
  cases value : l.node? with
  | none =>
      rw [Literal.node, value] at read
      cases read
  | some v =>
      rw [real?_node allows (by rw [value]; rfl)] at read
      exact (Option.some.inj read).symm

theorem agrees_truth : ValueKind.truth.Agrees Node.boolean? Literal.truth := by
  intro l allows b read
  rw [boolean?_node allows] at read
  exact (Option.some.inj read).symm

theorem ValueKind.Agrees.map {β γ : Type} {read : Node → Option β} {value : Literal → β}
    (agrees : kind.Agrees read value) (f : β → γ) :
    kind.Agrees (fun v => (read v).map f) (fun l => f (value l)) := by
  intro l allows b read
  obtain ⟨a, first, rfl⟩ := Option.map_eq_some_iff.1 read
  exact congrArg f (agrees l allows a first)

theorem isUnit_share_iff (allows : ValueKind.share.Allows l) :
    l.share.isUnit = true ↔ l.WithinUnit := by
  cases l with
  | integer l => exact Binary64.isUnit_ofInt
  | real l =>
      rw [← Bool.not_eq_false, Literal.share, Binary64.isUnit_eq_false_iff]
      simp [Literal.WithinUnit]
  | boolean b => cases allows

/-- A number between zero and one is not too large to have a value. -/
theorem isSome_node?_of_withinUnit (unit : l.WithinUnit) : l.node?.isSome := by
  cases l with
  | integer l =>
      obtain ⟨low, high⟩ := unit
      rw [node?_integer low (by omega)]
      rfl
  | real l =>
      cases l with
      | decimal sign digits canonical tail =>
          have finite : (RealLiteral.decimal sign digits canonical tail).value ≠
              .infinity false := by
            intro infinite
            have inside := (isUnit_share_iff (l := .real _) trivial).2 unit
            rw [Literal.share, infinite] at inside
            exact absurd inside (by decide)
          rw [Literal.node?, RealLiteral.node?, Toml.finiteUp?, if_neg finite]
          rfl
      | infinity sign => rfl
      | nan sign => rfl
  | boolean b => rfl

theorem isSome_node? (allows : kind.Allows l) (unit : kind = .share → l.WithinUnit) :
    l.node?.isSome := by
  cases kind with
  | share => exact isSome_node?_of_withinUnit (unit rfl)
  | truth =>
      cases l with
      | boolean b => rfl
      | _ => cases allows
  | _ =>
      cases l with
      | integer l => rw [node?_integer allows.1 allows.2]; rfl
      | _ => cases allows

theorem reads_node (allows : kind.Allows l) (valued : l.node?.isSome)
    (narrow : kind = .count → l.whole < 2 ^ 32) : kind.reads l.node = true := by
  cases kind with
  | count => rw [ValueKind.reads, count?_node allows, if_pos (narrow rfl)]; rfl
  | word => rw [ValueKind.reads, word?_node allows]; rfl
  | share => rw [ValueKind.reads, real?_node allows valued]; rfl
  | truth => rw [ValueKind.reads, boolean?_node allows]; rfl

theorem word_ne_zero_iff (allows : ValueKind.word.Allows l) : l.word ≠ 0 ↔ l.whole ≠ 0 := by
  cases l with
  | integer l =>
      obtain ⟨low, high⟩ := allows
      have size : UInt64.size = 2 ^ 64 := rfl
      rw [Ne, ← UInt64.toNat_inj, Literal.word, Literal.whole,
        UInt64.toNat_ofNat_of_lt' (by omega), UInt64.toNat_zero]
      omega
  | _ => cases allows

theorem count_ne_zero_iff (allows : ValueKind.count.Allows l) (narrow : l.whole < 2 ^ 32) :
    l.count ≠ 0 ↔ l.whole ≠ 0 := by
  cases l with
  | integer l =>
      obtain ⟨low, high⟩ := allows
      rw [Literal.whole] at narrow
      have size : UInt32.size = 2 ^ 32 := rfl
      rw [Ne, ← UInt32.toNat_inj, Literal.count, Literal.whole,
        UInt32.toNat_ofNat_of_lt' (by omega), UInt32.toNat_zero]
      omega
  | _ => cases allows

end Literals

end DuplexStream
