import DuplexStream.Proofs.Text.Utf8

/-!
# Well-formed bytes are the bytes of a text

Reading is exact: bytes that are read without a fault are the ones that the characters found in them
are written as, since the ranges of the second byte leave each character one spelling. Hence the
bytes that are read are the valid ones in the sense of the language's own strings
(`Text.Utf8.isValid_iff`), and on these the reading with replacements replaces nothing.
-/

namespace DuplexStream.Text.Utf8

section Spelling

variable {a b c d : UInt8}

theorem contains_iff (r : ByteRange) (b : UInt8) :
    r.contains b = true ↔ r.low ≤ b.toNat ∧ b.toNat ≤ r.high :=
  decide_eq_true_iff

theorem byte_eq {n : Nat} (same : n = b.toNat) : UInt8.ofNat n = b := by
  rw [same, UInt8.ofNat_toNat]

/-- A continuation byte is the one with its own six bits. -/
theorem continuation_eq {n : Nat} (fits : 0x80 ≤ b.toNat ∧ b.toNat ≤ 0xBF)
    (same : n % 64 = b.toNat % 64) : continuation n = b := by
  apply byte_eq
  omega

theorem toNat_charOfNat {n : Nat} (valid : n.isValidChar) : (Char.ofNat n).toNat = n := by
  rw [Char.ofNat, dif_pos valid]
  rfl

theorem encodeChar_one (small : a.toNat < 0x80) : encodeChar (Char.ofNat a.toNat) = [a] := by
  have valid : a.toNat.isValidChar := Or.inl (by omega)
  rw [encodeChar, toNat_charOfNat valid, if_pos small, byte_eq rfl]

theorem encodeChar_two (lead : 0xC2 ≤ a.toNat ∧ a.toNat < 0xE0)
    (second : 0x80 ≤ b.toNat ∧ b.toNat ≤ 0xBF) :
    encodeChar (Char.ofNat ((a.toNat - 0xC0) * 64 + b.toNat % 64)) = [a, b] := by
  generalize code : (a.toNat - 0xC0) * 64 + b.toNat % 64 = n
  have valid : n.isValidChar := Or.inl (by omega)
  rw [encodeChar, toNat_charOfNat valid, if_neg (by omega), if_pos (by omega),
    byte_eq (show 0xC0 + n / 64 = a.toNat by omega), continuation_eq second (by omega)]

theorem encodeChar_three (lead : 0xE0 ≤ a.toNat ∧ a.toNat < 0xF0)
    (second : 0x80 ≤ b.toNat ∧ b.toNat ≤ 0xBF) (third : 0x80 ≤ c.toNat ∧ c.toNat ≤ 0xBF)
    (long : a.toNat = 0xE0 → 0xA0 ≤ b.toNat) (noSurrogate : a.toNat = 0xED → b.toNat ≤ 0x9F) :
    encodeChar (Char.ofNat (((a.toNat - 0xE0) * 64 + b.toNat % 64) * 64 + c.toNat % 64)) =
      [a, b, c] := by
  generalize code : ((a.toNat - 0xE0) * 64 + b.toNat % 64) * 64 + c.toNat % 64 = n
  have valid : n.isValidChar := by
    by_cases low : n < 0xD800
    · exact Or.inl low
    · exact Or.inr ⟨by omega, by omega⟩
  rw [encodeChar, toNat_charOfNat valid, if_neg (by omega), if_neg (by omega), if_pos (by omega),
    byte_eq (show 0xE0 + n / 4096 = a.toNat by omega), continuation_eq second (by omega),
    continuation_eq third (by omega)]

theorem encodeChar_four (lead : 0xF0 ≤ a.toNat ∧ a.toNat ≤ 0xF4)
    (second : 0x80 ≤ b.toNat ∧ b.toNat ≤ 0xBF) (third : 0x80 ≤ c.toNat ∧ c.toNat ≤ 0xBF)
    (fourth : 0x80 ≤ d.toNat ∧ d.toNat ≤ 0xBF) (long : a.toNat = 0xF0 → 0x90 ≤ b.toNat)
    (inRange : a.toNat = 0xF4 → b.toNat ≤ 0x8F) :
    encodeChar (Char.ofNat
      ((((a.toNat - 0xF0) * 64 + b.toNat % 64) * 64 + c.toNat % 64) * 64 + d.toNat % 64)) =
      [a, b, c, d] := by
  generalize code :
    (((a.toNat - 0xF0) * 64 + b.toNat % 64) * 64 + c.toNat % 64) * 64 + d.toNat % 64 = n
  have valid : n.isValidChar := Or.inr ⟨by omega, by omega⟩
  rw [encodeChar, toNat_charOfNat valid, if_neg (by omega), if_neg (by omega), if_neg (by omega),
    byte_eq (show 0xF0 + n / 262144 = a.toNat by omega), continuation_eq second (by omega),
    continuation_eq third (by omega), continuation_eq fourth (by omega)]

end Spelling

section Inversion

variable {bits : Nat} {r r' : ByteRange} {more : List ByteRange} {bs : List UInt8} {cs : List Char}

/-- What has been read when the last byte of a character was due. -/
theorem last_of_decodeFrom (read : decodeFrom (some ⟨bits, r, []⟩) bs = some cs) :
    ∃ b rest cs', bs = b :: rest ∧ r.contains b = true ∧ decodeFrom none rest = some cs' ∧
      cs = Char.ofNat (bits * 64 + b.toNat % 64) :: cs' := by
  cases bs with
  | nil => simp [decodeFrom] at read
  | cons b rest =>
      by_cases fits : r.contains b = true
      · simp only [decodeFrom, feed, Partial.feed, if_pos fits, Option.map_eq_some_iff] at read
        obtain ⟨cs', others, rfl⟩ := read
        exact ⟨b, rest, cs', rfl, fits, others, rfl⟩
      · simp [decodeFrom, feed, Partial.feed, fits] at read

/-- What has been read when more than one byte of a character was due. -/
theorem more_of_decodeFrom (read : decodeFrom (some ⟨bits, r, r' :: more⟩) bs = some cs) :
    ∃ b rest, bs = b :: rest ∧ r.contains b = true ∧
      decodeFrom (some ⟨bits * 64 + b.toNat % 64, r', more⟩) rest = some cs := by
  cases bs with
  | nil => simp [decodeFrom] at read
  | cons b rest =>
      by_cases fits : r.contains b = true
      · simp only [decodeFrom, feed, Partial.feed, if_pos fits] at read
        exact ⟨b, rest, rfl, fits, read⟩
      · simp [decodeFrom, feed, Partial.feed, fits] at read

/-- What a first byte leads to: a character, or the ranges of the bytes that follow. The range of
the second byte is narrower after the bytes that could begin a longer spelling than needed, a
surrogate or a code point beyond the last one. -/
inductive LeadsTo (a : UInt8) : Feed → Prop where
  | one (small : a.toNat < 0x80) : LeadsTo a (.complete (Char.ofNat a.toNat))
  | two (range : 0xC2 ≤ a.toNat ∧ a.toNat < 0xE0) :
      LeadsTo a (.needs ⟨a.toNat - 0xC0, anyContinuation, []⟩)
  | three (range : 0xE0 ≤ a.toNat ∧ a.toNat < 0xF0) (r : ByteRange)
      (within : 0x80 ≤ r.low ∧ r.high ≤ 0xBF) (long : a.toNat = 0xE0 → 0xA0 ≤ r.low)
      (noSurrogate : a.toNat = 0xED → r.high ≤ 0x9F) :
      LeadsTo a (.needs ⟨a.toNat - 0xE0, r, [anyContinuation]⟩)
  | four (range : 0xF0 ≤ a.toNat ∧ a.toNat ≤ 0xF4) (r : ByteRange)
      (within : 0x80 ≤ r.low ∧ r.high ≤ 0xBF) (long : a.toNat = 0xF0 → 0x90 ≤ r.low)
      (inRange : a.toNat = 0xF4 → r.high ≤ 0x8F) :
      LeadsTo a (.needs ⟨a.toNat - 0xF0, r, [anyContinuation, anyContinuation]⟩)
  | broken : LeadsTo a .broken

theorem leadsTo_lead (a : UInt8) : LeadsTo a (lead a) := by
  -- one case for each branch of `lead`, in its order
  simp only [lead]
  by_cases one : a.toNat < 0x80
  · rw [if_pos one]
    exact .one one
  rw [if_neg one]
  by_cases early : a.toNat < 0xC2
  · rw [if_pos early]
    exact .broken
  rw [if_neg early]
  by_cases two : a.toNat < 0xE0
  · rw [if_pos two]
    exact .two ⟨by omega, two⟩
  rw [if_neg two]
  by_cases low : a.toNat = 0xE0
  · have leads := LeadsTo.three (a := a) ⟨by omega, by omega⟩ ⟨0xA0, 0xBF⟩ (by decide)
      (fun _ => Nat.le_refl _) (by omega)
    rw [low] at leads
    rwa [if_pos low]
  rw [if_neg low]
  by_cases middle : a.toNat = 0xED
  · have leads := LeadsTo.three (a := a) ⟨by omega, by omega⟩ ⟨0x80, 0x9F⟩ (by decide) (by omega)
      (fun _ => Nat.le_refl _)
    rw [middle] at leads
    rwa [if_pos middle]
  rw [if_neg middle]
  by_cases three : a.toNat < 0xF0
  · rw [if_pos three]
    exact .three ⟨by omega, three⟩ anyContinuation (by decide) (by omega) (by omega)
  rw [if_neg three]
  by_cases first : a.toNat = 0xF0
  · have leads := LeadsTo.four (a := a) ⟨by omega, by omega⟩ ⟨0x90, 0xBF⟩ (by decide)
      (fun _ => Nat.le_refl _) (by omega)
    rw [first] at leads
    rwa [if_pos first]
  rw [if_neg first]
  by_cases four : a.toNat < 0xF4
  · rw [if_pos four]
    exact .four ⟨by omega, by omega⟩ anyContinuation (by decide) (by omega) (by omega)
  rw [if_neg four]
  by_cases last : a.toNat = 0xF4
  · have leads := LeadsTo.four (a := a) ⟨by omega, by omega⟩ ⟨0x80, 0x8F⟩ (by decide) (by omega)
      (fun _ => Nat.le_refl _)
    rw [last] at leads
    rwa [if_pos last]
  · rw [if_neg last]
    exact .broken

/-- The first character that is read was written with the bytes that were read for it. -/
theorem encodeChar_of_decodeFrom {a : UInt8} (read : decodeFrom none (a :: bs) = some cs) :
    ∃ c cs' rest, cs = c :: cs' ∧ a :: bs = encodeChar c ++ rest ∧
      decodeFrom none rest = some cs' := by
  have tail {b : UInt8} (fits : anyContinuation.contains b = true) :
      0x80 ≤ b.toNat ∧ b.toNat ≤ 0xBF := (contains_iff _ _).mp fits
  have leads := leadsTo_lead a
  generalize fed : lead a = next at leads
  cases leads with
  | one small =>
      simp only [decodeFrom, feed, fed, Option.map_eq_some_iff] at read
      obtain ⟨cs', others, rfl⟩ := read
      exact ⟨_, cs', bs, rfl, by rw [encodeChar_one small, List.singleton_append], others⟩
  | two range =>
      rw [decodeFrom_lead _ fed] at read
      obtain ⟨b, rest, cs', rfl, second, others, rfl⟩ := last_of_decodeFrom read
      exact ⟨_, cs', rest, rfl, by rw [encodeChar_two range (tail second)]; rfl, others⟩
  | three range r within long noSurrogate =>
      rw [decodeFrom_lead _ fed] at read
      obtain ⟨b, _, rfl, second, read⟩ := more_of_decodeFrom read
      obtain ⟨c, rest, cs', rfl, third, others, rfl⟩ := last_of_decodeFrom read
      obtain ⟨above, below⟩ := (contains_iff _ _).mp second
      have spelled := encodeChar_three range ⟨by omega, by omega⟩ (tail third)
        (fun same => Nat.le_trans (long same) above)
        (fun same => Nat.le_trans below (noSurrogate same))
      exact ⟨_, cs', rest, rfl, by rw [spelled]; rfl, others⟩
  | four range r within long inRange =>
      rw [decodeFrom_lead _ fed] at read
      obtain ⟨b, _, rfl, second, read⟩ := more_of_decodeFrom read
      obtain ⟨c, _, rfl, third, read⟩ := more_of_decodeFrom read
      obtain ⟨d, rest, cs', rfl, fourth, others, rfl⟩ := last_of_decodeFrom read
      obtain ⟨above, below⟩ := (contains_iff _ _).mp second
      have spelled := encodeChar_four range ⟨by omega, by omega⟩ (tail third) (tail fourth)
        (fun same => Nat.le_trans (long same) above)
        (fun same => Nat.le_trans below (inRange same))
      exact ⟨_, cs', rest, rfl, by rw [spelled]; rfl, others⟩
  | broken => simp [decodeFrom, feed, fed] at read

end Inversion

/-- Bytes that are read are the bytes of what is read. -/
theorem encode_of_decode? {bs : List UInt8} {cs : List Char} (read : decode? bs = some cs) :
    encode cs = bs := by
  induction cs generalizing bs with
  | nil =>
      cases bs with
      | nil => rfl
      | cons a bs =>
          obtain ⟨_, _, _, matched, _, _⟩ := encodeChar_of_decodeFrom read
          exact absurd matched nofun
  | cons c cs ih =>
      cases bs with
      | nil => exact absurd read nofun
      | cons a bs =>
          obtain ⟨_, _, rest, same, spelled, others⟩ := encodeChar_of_decodeFrom read
          obtain ⟨rfl, rfl⟩ := List.cons.inj same
          calc encode (c :: cs) = encodeChar c ++ encode cs := rfl
            _ = encodeChar c ++ rest := by rw [ih others]
            _ = a :: bs := spelled.symm

/-- A text is read from its own bytes and from no others. -/
theorem text?_eq_some_iff {bs : List UInt8} {s : String} : text? bs = some s ↔ bytesOf s = bs := by
  constructor
  · intro read
    obtain ⟨cs, decoded, rfl⟩ := Option.map_eq_some_iff.mp read
    rw [bytesOf, String.toList_ofList, encode_of_decode? decoded]
  · rintro rfl
    exact text?_bytesOf s

section Strings

/-- A character is written as the language's own strings hold it. -/
theorem encodeChar_eq (c : Char) : encodeChar c = String.utf8EncodeChar c := by
  have range : c.toNat < 0x110000 := by
    rcases c.valid with low | ⟨_, high⟩
    · exact Nat.lt_trans low (by decide)
    · exact high
  have value : c.val.toNat = c.toNat := rfl
  simp only [encodeChar, String.utf8EncodeChar, value]
  generalize c.toNat = n at range
  have byte {k m : Nat} (same : k = m) : UInt8.ofNat k = UInt8.ofNat m := congrArg UInt8.ofNat same
  by_cases one : n < 0x80
  · rw [if_pos one, if_pos (by omega)]
  · by_cases two : n < 0x800
    · rw [if_neg one, if_pos two, if_neg (by omega), if_pos (by omega), continuation,
        byte (show 0xC0 + n / 64 = n / 64 % 32 + 192 by omega), Nat.add_comm 0x80]
    · by_cases three : n < 0x10000
      · rw [if_neg one, if_neg two, if_pos three, if_neg (by omega), if_neg (by omega),
          if_pos (by omega), continuation, continuation,
          byte (show 0xE0 + n / 4096 = n / 4096 % 16 + 224 by omega), Nat.add_comm 0x80,
          Nat.add_comm 0x80]
      · rw [if_neg one, if_neg two, if_neg three, if_neg (by omega), if_neg (by omega),
          if_neg (by omega), continuation, continuation, continuation,
          byte (show 0xF0 + n / 262144 = n / 262144 % 8 + 240 by omega), Nat.add_comm 0x80,
          Nat.add_comm 0x80, Nat.add_comm 0x80]

theorem utf8Encode_eq (cs : List Char) : cs.utf8Encode = (encode cs).toByteArray := by
  rw [encode, List.utf8Encode, funext encodeChar_eq]

/-- The bytes that are read are those that a string can hold. -/
theorem isValid_iff (bs : List UInt8) : IsValid bs ↔ bs.toByteArray.IsValidUTF8 := by
  constructor
  · intro valid
    obtain ⟨cs, read⟩ := Option.isSome_iff_exists.mp valid
    exact .intro cs (by rw [utf8Encode_eq, encode_of_decode? read])
  · rintro ⟨cs, same⟩
    rw [utf8Encode_eq, List.toByteArray_inj] at same
    rw [IsValid, same, decode?_encode]
    rfl

end Strings

/-- Where the strict reading succeeds, the reading with replacements finds the same characters and
goes on behind them. -/
theorem decodeLossyFrom_append {p : Option Partial} {bs : List UInt8} {cs : List Char}
    (read : decodeFrom p bs = some cs) (rest : List UInt8) :
    decodeLossyFrom p (bs ++ rest) = cs ++ decodeLossyFrom none rest := by
  fun_induction decodeFrom p bs generalizing cs with
  | case1 =>
      cases read
      rfl
  | case2 => exact absurd read nofun
  | case3 p b bs c fed ih =>
      obtain ⟨cs', others, rfl⟩ := Option.map_eq_some_iff.mp read
      cases p with
      | none =>
          simp only [List.cons_append, decodeLossyFrom, show lead b = .complete c from fed,
            ih others]
      | some p =>
          simp only [List.cons_append, decodeLossyFrom, show p.feed b = .complete c from fed,
            ih others]
  | case4 p b bs q fed ih =>
      cases p with
      | none =>
          simp only [List.cons_append, decodeLossyFrom, show lead b = .needs q from fed, ih read]
      | some p =>
          simp only [List.cons_append, decodeLossyFrom, show p.feed b = .needs q from fed, ih read]
  | case5 => exact absurd read nofun

theorem decodeLossyFrom_of_decodeFrom {p : Option Partial} {bs : List UInt8} {cs : List Char}
    (read : decodeFrom p bs = some cs) : decodeLossyFrom p bs = cs := by
  have whole := decodeLossyFrom_append read []
  rwa [List.append_nil, decodeLossyFrom, List.append_nil] at whole

/-- The reading with replacements replaces nothing in the bytes of a text. -/
theorem textLossy_bytesOf (s : String) : textLossy (bytesOf s) = s := by
  have read : decodeLossy (encode s.toList) = s.toList :=
    decodeLossyFrom_of_decodeFrom (decode?_encode s.toList)
  rw [textLossy, bytesOf, read, String.ofList_toList]

end DuplexStream.Text.Utf8
