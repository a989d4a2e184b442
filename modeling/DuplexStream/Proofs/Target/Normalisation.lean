import DuplexStream.Proofs.Text.SmallLetters
import DuplexStream.Target

/-!
# The address of a target

The target that is chosen has no blanks at its ends and is not empty, so that its address has no
blanks at its ends either, and making an address of it once more changes nothing. A connection is
encrypted exactly if the chosen target itself begins with `https://` in letters of ASCII: what has
no scheme is given one that is not encrypted, and no letter beyond ASCII has a small form in that
word.
-/

namespace DuplexStream

namespace Text

variable {cs : List Char}

/-- No blank stands at either end. -/
structure Trimmed (cs : List Char) : Prop where
  first : ∀ c, cs.head? = some c → isBlank c = false
  last : ∀ c, cs.getLast? = some c → isBlank c = false

theorem first_dropBlanks (cs : List Char) {c : Char} (first : (dropBlanks cs).head? = some c) :
    isBlank c = false := by
  have := List.head?_dropWhile_not isBlank cs
  rw [dropBlanks] at first
  simpa only [first] using this

theorem dropBlanks_eq_self (first : ∀ c, cs.head? = some c → isBlank c = false) :
    dropBlanks cs = cs := by
  cases cs with
  | nil => rfl
  | cons c cs => exact List.dropWhile_cons_of_neg (by simp [first c rfl])

theorem trimmed_trimList (cs : List Char) : Trimmed (trimList cs) := by
  refine ⟨fun c first => ?_, fun c last => ?_⟩
  · -- What stands in front is what stood in front once the first blanks were gone.
    rw [trimList, List.head?_reverse] at first
    obtain ⟨blanks, split⟩ : dropBlanks (dropBlanks cs).reverse <:+ (dropBlanks cs).reverse :=
      List.dropWhile_suffix isBlank
    have same : (dropBlanks cs).reverse.getLast? = some c := by
      rw [← split, List.getLast?_append, first, Option.some_or]
    rw [List.getLast?_reverse] at same
    exact first_dropBlanks cs same
  · rw [trimList, List.getLast?_reverse] at last
    exact first_dropBlanks _ last

theorem Trimmed.trimList_eq (trimmed : Trimmed cs) : trimList cs = cs := by
  have back : ∀ c, cs.reverse.head? = some c → isBlank c = false := by
    intro c first
    rw [List.head?_reverse] at first
    exact trimmed.last c first
  rw [trimList, dropBlanks_eq_self trimmed.first, dropBlanks_eq_self back, List.reverse_reverse]

end Text

theorem hasScheme_iff (cs : List Char) : hasScheme cs = true ↔ "://".toList <:+: cs := by
  change hasScheme cs = true ↔ [':', '/', '/'] <:+: cs
  induction cs with
  | nil => simp [hasScheme]
  | cons c cs ih =>
      rw [List.infix_cons_iff, ← ih]
      by_cases here : [':', '/', '/'] <+: c :: cs
      · obtain ⟨rest, whole⟩ := here
        rw [← whole]
        simp [hasScheme]
      · have further : hasScheme (c :: cs) = hasScheme cs := by
          rw [hasScheme]
          rintro rest rfl rfl
          exact here ⟨rest, rfl⟩
        simp [further, here]

/-- A target that is settled: something is said, and no blank stands at its ends. -/
structure IsSettled (target : String) : Prop where
  said : target ≠ ""
  trimmed : Text.Trimmed target.toList

theorem isSettled_chooseTarget (explicit environment : Option String) :
    IsSettled (chooseTarget explicit environment) := by
  rw [chooseTarget]
  cases found :
      (([explicit, environment].filterMap id).map Text.trim).find? fun s => !s.isEmpty with
  | none =>
      refine ⟨by decide, fun c first => ?_, fun c last => ?_⟩
      · obtain rfl : '[' = c := Option.some.inj first
        rfl
      · obtain rfl : '1' = c := Option.some.inj last
        rfl
  | some s =>
      have said := List.find?_some found
      obtain ⟨given, _, rfl⟩ := List.mem_map.mp (List.mem_of_find?_eq_some found)
      rw [Option.getD_some]
      refine ⟨?_, ?_⟩
      · rintro empty
        simp [empty] at said
      · rw [Text.trim, String.toList_ofList]
        exact Text.trimmed_trimList _

namespace IsSettled

variable {target : String}

theorem trim_eq (settled : IsSettled target) : Text.trim target = target := by
  rw [Text.trim, settled.trimmed.trimList_eq, String.ofList_toList]

/-- A settled target with a scheme is its own address; the others get a scheme in front. -/
theorem address_eq (settled : IsSettled target) : (Connection.ofTarget target).address =
    if hasScheme target.toList then target else "http://" ++ target := by
  have said : target.isEmpty = false := by
    rw [Bool.eq_false_iff, Ne, String.isEmpty_iff]
    exact settled.said
  simp only [Connection.ofTarget, settled.trim_eq, addressOf, said, Bool.false_or]

theorem address (settled : IsSettled target) : IsSettled (Connection.ofTarget target).address := by
  rw [settled.address_eq]
  split
  · exact settled
  · refine ⟨?_, fun c first => ?_, fun c last => ?_⟩
    · intro empty
      simpa using congrArg String.toList empty
    · rw [String.toList_append] at first
      obtain rfl : 'h' = c := Option.some.inj first
      rfl
    · obtain ⟨z, final⟩ := Option.ne_none_iff_exists'.mp
        (mt List.getLast?_eq_none_iff.mp (mt String.toList_eq_nil_iff.mp settled.said))
      rw [String.toList_append, List.getLast?_append, final, Option.some_or] at last
      exact settled.trimmed.last c (final.trans last)

theorem hasScheme_address (settled : IsSettled target) :
    hasScheme (Connection.ofTarget target).address.toList = true := by
  rw [settled.address_eq]
  split
  · assumption
  · rw [String.toList_append]
    rfl

/-- An address is its own address. -/
theorem ofTarget_address (settled : IsSettled target) :
    Connection.ofTarget (Connection.ofTarget target).address = Connection.ofTarget target := by
  have same : (Connection.ofTarget (Connection.ofTarget target).address).address =
      (Connection.ofTarget target).address := by
    rw [settled.address.address_eq, if_pos settled.hasScheme_address]
  simp only [Connection.ofTarget] at same ⊢
  rw [same]

end IsSettled

/-- The word that asks for an encrypted connection. -/
theorem asksForEncryption_iff (address : String) : asksForEncryption address = true ↔
    (address.toList.take 8).map Char.toLower = "https://".toList := by
  have all : "https://".toList.all (decide <| Text.IsPlainLetter ·) = true := by decide
  have plain (p : Char) (mem : p ∈ "https://".toList) : Text.IsPlainLetter p :=
    of_decide_eq_true (List.all_eq_true.1 all p mem)
  rw [asksForEncryption, List.isPrefixOf_iff_prefix]
  exact Text.prefix_inSmallLetters_iff plain address.toList

/-- What begins with that word has a scheme. -/
theorem hasScheme_of_asks {cs : List Char}
    (asks : (cs.take 8).map Char.toLower = "https://".toList) : hasScheme cs = true := by
  have mark : ((cs.drop 5).take 3).map Char.toLower = [':', '/', '/'] := by
    have behind := congrArg (List.drop 5) asks
    rw [← List.map_drop, List.drop_take] at behind
    exact behind
  obtain ⟨a, as, word, first, mark⟩ := List.map_eq_cons_iff.mp mark
  obtain ⟨b, bs, rfl, second, mark⟩ := List.map_eq_cons_iff.mp mark
  obtain ⟨c, cs', rfl, third, mark⟩ := List.map_eq_cons_iff.mp mark
  obtain rfl := List.map_eq_nil_iff.mp mark
  rw [Text.eq_of_toLower (by decide) first, Text.eq_of_toLower (by decide) second,
    Text.eq_of_toLower (by decide) third] at word
  rw [hasScheme_iff]
  change [':', '/', '/'] <:+: cs
  rw [← word]
  exact (List.take_prefix 3 _).isInfix.trans (List.drop_suffix 5 cs).isInfix

theorem IsSettled.encrypted_iff {target : String} (settled : IsSettled target) :
    (Connection.ofTarget target).encrypted = true ↔
      (target.toList.take 8).map Char.toLower = "https://".toList := by
  have asks : (Connection.ofTarget target).encrypted =
      asksForEncryption (Connection.ofTarget target).address := by
    simp only [Connection.ofTarget]
  rw [asks, settled.address_eq]
  split
  · exact asksForEncryption_iff target
  · rename_i bare
    have plain : asksForEncryption ("http://" ++ target) ≠ true := by
      rw [Ne, asksForEncryption_iff, String.toList_append]
      exact nofun
    exact ⟨fun yes => absurd yes plain, fun yes => absurd (hasScheme_of_asks yes) bare⟩

/-- The address of the chosen target is not empty, has no white space at its ends and contains
`://`; the connection to that address is the same connection. It is encrypted exactly if the chosen
target starts with `https://`, capitals of ASCII taken as small, and so never without `://`. -/
theorem chosen_address_normal (explicit environment : Option String) :
    let target := chooseTarget explicit environment
    let connection := Connection.ofTarget target
    connection.address ≠ "" ∧
      Text.Trimmed connection.address.toList ∧
      "://".toList <:+: connection.address.toList ∧
      Connection.ofTarget connection.address = connection ∧
      (connection.encrypted = true ↔
        (target.toList.take 8).map Char.toLower = "https://".toList) ∧
      (¬ "://".toList <:+: target.toList → connection.encrypted = false) := by
  intro target connection
  have settled : IsSettled target := isSettled_chooseTarget explicit environment
  refine ⟨settled.address.said, settled.address.trimmed,
    (hasScheme_iff _).mp settled.hasScheme_address, settled.ofTarget_address,
    settled.encrypted_iff, fun bare => ?_⟩
  rw [Bool.eq_false_iff, Ne, settled.encrypted_iff]
  exact fun asks => bare ((hasScheme_iff _).mp (hasScheme_of_asks asks))

/-- Blanks of several kinds around a target in capitals, which is taken from the environment since
nothing but blanks is asked for; and a bare host with a Kelvin sign. -/
theorem chosen_address_normal_spaced :
    let target := chooseTarget (some " \t") (some "\u3000HTTPS://a:1\u00A0\n")
    let bare := chooseTarget (some "\u212Aelvin:6000") none
    target = "HTTPS://a:1" ∧ (Connection.ofTarget target).address = target ∧
      (Connection.ofTarget target).encrypted = true ∧
      Connection.ofTarget (Connection.ofTarget target).address = Connection.ofTarget target ∧
      ¬ "://".toList <:+: bare.toList ∧
      (Connection.ofTarget bare).address = "http://\u212Aelvin:6000" ∧
      (Connection.ofTarget bare).encrypted = false := by
  intro target bare
  obtain ⟨_, _, _, same, secure, _⟩ :=
    chosen_address_normal (some " \t") (some "\u3000HTTPS://a:1\u00A0\n")
  obtain ⟨_, _, _, _, _, plain⟩ := chosen_address_normal (some "\u212Aelvin:6000") none
  have schemeless : ¬ "://".toList <:+: bare.toList := by
    rw [← hasScheme_iff]
    decide +kernel
  exact ⟨by decide +kernel, by decide +kernel, secure.mpr (by decide +kernel), same, schemeless,
    by decide +kernel, plain schemeless⟩

end DuplexStream
