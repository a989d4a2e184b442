import DuplexStream.Proofs.Text.WellFormed
import DuplexStream.Text.SmallLetters

/-!
# Small letters and the letters of ASCII

A character whose small form begins with a character of ASCII is mostly that character or its
capital in ASCII. There are two exceptions: the Kelvin sign becomes `k`, and the dotted capital I
becomes an `i` with a mark. A word of small letters other than these two therefore stands at the
front of a text in small letters exactly if it stands at the front of the text itself once the
capitals of ASCII are taken as small (`prefix_inSmallLetters_iff`).
-/

namespace DuplexStream.Text

section Characters

variable {c : Char}

/-- A capital of ASCII and its small form lie in the first range; the Kelvin sign is a range of its
own; in all others both the capitals and their small forms lie beyond ASCII. -/
theorem range_cases {r : CapitalRange} (mem : r ∈ capitals) :
    r = ⟨0x41, 0x5A, 1, 32⟩ ∨ r = ⟨0x212A, 0x212A, 1, -8383⟩ ∨
      (128 ≤ r.first ∧ 128 ≤ r.first + r.offset) := by
  have checked : ∀ r ∈ capitals,
      (r.first = 0x41 ∧ r.last = 0x5A ∧ r.step = 1 ∧ r.offset = 32) ∨
        (r.first = 0x212A ∧ r.last = 0x212A ∧ r.step = 1 ∧ r.offset = -8383) ∨
        (128 ≤ r.first ∧ 128 ≤ r.first + r.offset) := by
    decide +kernel
  obtain ⟨first, last, step, offset⟩ := r
  simpa only [CapitalRange.mk.injEq] using checked _ mem

/-- A code point is that of the character it gives, or there is no such character and it gives the
null character. -/
theorem toNat_ofNat_cases (n : Nat) : (Char.ofNat n).toNat = n ∨ (Char.ofNat n).toNat = 0 := by
  by_cases valid : n.isValidChar
  · exact .inl (Utf8.toNat_charOfNat valid)
  · rw [Char.ofNat, dif_neg valid]
    exact .inr rfl

theorem toLower_of_capital (capital : 65 ≤ c.toNat ∧ c.toNat ≤ 90) :
    c.toLower = Char.ofNat (c.toNat + 32) := by
  have between : c.val ≥ 'A'.val ∧ c.val ≤ 'Z'.val := by
    simpa [UInt32.le_iff_toNat_le] using capital
  have small : (c.val + ('a'.val - 'A'.val)).toNat = c.toNat + 32 := by
    rw [UInt32.toNat_add]
    refine Nat.mod_eq_of_lt ?_
    change c.toNat + 32 < 2 ^ 32
    omega
  have given : (Char.ofNat (c.toNat + 32)).toNat = c.toNat + 32 :=
    Utf8.toNat_charOfNat (.inl (by omega))
  refine (dif_pos between).trans ?_
  exact Char.ext (UInt32.toNat_inj.mp (small.trans given.symm))

theorem toLower_of_other (other : ¬ (65 ≤ c.toNat ∧ c.toNat ≤ 90)) : c.toLower = c := by
  refine dif_neg fun between => other ?_
  simpa [UInt32.le_iff_toNat_le] using between

/-- A character in front of the small letters of ASCII is nothing's small form but its own. -/
theorem eq_of_toLower {p : Char} (early : p.toNat < 97) (same : c.toLower = p) : c = p := by
  by_cases capital : 65 ≤ c.toNat ∧ c.toNat ≤ 90
  · rw [toLower_of_capital capital] at same
    have code : (Char.ofNat (c.toNat + 32)).toNat = c.toNat + 32 :=
      Utf8.toNat_charOfNat (.inl (by omega))
    rw [same] at code
    omega
  · rwa [toLower_of_other capital] at same

/-- The small form of a character that is no capital of ASCII: itself, unless it lies beyond ASCII,
and then it begins beyond ASCII too, with the two exceptions. -/
theorem smallForm_of_other (other : ¬ (65 ≤ c.toNat ∧ c.toNat ≤ 90)) :
    smallForm c = [c] ∨ 128 ≤ c.toNat ∧ ∃ d, (smallForm c).head? = some d ∧
      (d = 'i' ∨ d = 'k' ∨ 128 ≤ d.toNat ∨ d.toNat = 0) := by
  unfold smallForm
  split
  · exact .inr ⟨by omega, 'i', rfl, .inl rfl⟩
  · split
    · rename_i r found
      have inside : r.first ≤ c.toNat ∧ c.toNat ≤ r.last ∧ (c.toNat - r.first) % r.step = 0 := by
        simpa only [CapitalRange.contains, decide_eq_true_eq] using List.find?_some found
      rcases range_cases (List.mem_of_find?_eq_some found) with rfl | rfl | ⟨far, farToo⟩
      · exact absurd ⟨inside.1, inside.2.1⟩ other
      · obtain ⟨low, high, _⟩ := inside
        have kelvin : c.toNat = 0x212A := Nat.le_antisymm high low
        refine .inr ⟨by omega, 'k', ?_, .inr (.inl rfl)⟩
        rw [kelvin]
        rfl
      · refine .inr ⟨by omega, _, rfl, .inr (.inr ?_)⟩
        rcases toNat_ofNat_cases (c.toNat + r.offset).toNat with same | null
        · exact .inl (by omega)
        · exact .inr null
    · exact .inl rfl

theorem smallForm_ne_nil (c : Char) : smallForm c ≠ [] := by
  unfold smallForm
  split
  · exact List.cons_ne_nil _ _
  · split <;> exact List.cons_ne_nil _ _

theorem smallForm_of_capital (capital : 65 ≤ c.toNat ∧ c.toNat ≤ 90) :
    smallForm c = [c.toLower] := by
  have found : capitals.find? (·.contains c.toNat) = some ⟨0x41, 0x5A, 1, 32⟩ := by
    refine List.find?_cons_of_pos ?_
    simpa [CapitalRange.contains, Nat.mod_one] using capital
  have undotted : c.toNat ≠ 0x130 := by omega
  rw [smallForm, if_neg undotted, found, toLower_of_capital capital]
  rfl

end Characters

/-- A letter of ASCII that no capital beyond ASCII begins with in small form. -/
def IsPlainLetter (p : Char) : Prop :=
  (0 < p.toNat ∧ p.toNat < 128) ∧ ¬ (65 ≤ p.toNat ∧ p.toNat ≤ 90) ∧ p ≠ 'i' ∧ p ≠ 'k'

instance (p : Char) : Decidable (IsPlainLetter p) :=
  inferInstanceAs (Decidable ((_ ∧ _) ∧ ¬ (_ ∧ _) ∧ _ ∧ _))

/-- Only such a letter itself and its capital in ASCII begin with it in small form, and then it is
all of the small form. -/
theorem IsPlainLetter.head_smallForm {p : Char} (plain : IsPlainLetter p) (c : Char) :
    ((smallForm c).head? = some p ↔ c.toLower = p) ∧ (c.toLower = p → smallForm c = [p]) := by
  obtain ⟨ascii, _, notI, notK⟩ := plain
  by_cases capital : 65 ≤ c.toNat ∧ c.toNat ≤ 90
  · rw [smallForm_of_capital capital]
    exact ⟨by rw [List.head?_cons, Option.some.injEq], fun same => by rw [same]⟩
  · rw [toLower_of_other capital]
    rcases smallForm_of_other capital with same | ⟨far, d, head, cases⟩
    · rw [same]
      exact ⟨by rw [List.head?_cons, Option.some.injEq], fun same => by rw [same]⟩
    · have differs : c ≠ p := by
        rintro rfl
        omega
      have other : d ≠ p := by
        rcases cases with rfl | rfl | far | null
        · exact notI.symm
        · exact notK.symm
        · rintro rfl
          omega
        · rintro rfl
          omega
      rw [head, Option.some.injEq]
      exact ⟨⟨fun same => absurd same other, fun same => absurd same differs⟩,
        fun same => absurd same differs⟩

/-- A word of plain letters stands at the front of a text in small letters exactly if the text
begins with it when the capitals of ASCII are taken as small. -/
theorem prefix_inSmallLetters_iff {word : List Char} (plain : ∀ p ∈ word, IsPlainLetter p)
    (cs : List Char) :
    word <+: inSmallLetters cs ↔ (cs.take word.length).map Char.toLower = word := by
  induction word generalizing cs with
  | nil => simp
  | cons p word ih =>
      obtain ⟨first, others⟩ := List.forall_mem_cons.mp plain
      cases cs with
      | nil => simp [inSmallLetters]
      | cons c cs =>
          obtain ⟨head, whole⟩ := first.head_smallForm c
          rw [List.length_cons, List.take_succ_cons, List.map_cons, List.cons.injEq]
          by_cases begins : c.toLower = p
          · rw [inSmallLetters, List.flatMap_cons, whole begins, List.singleton_append,
              List.cons_prefix_cons]
            simp only [true_and, begins]
            exact ih others cs
          · have differs := mt head.mp begins
            obtain ⟨d, ds, form⟩ := List.exists_cons_of_ne_nil (smallForm_ne_nil c)
            rw [form, List.head?_cons, Option.some.injEq] at differs
            rw [inSmallLetters, List.flatMap_cons, form, List.cons_append, List.cons_prefix_cons]
            exact ⟨fun same => absurd same.1.symm differs, fun same => absurd same.1 begins⟩

end DuplexStream.Text
