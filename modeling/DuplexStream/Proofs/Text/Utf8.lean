import DuplexStream.Text.Utf8
import Mathlib.Data.List.Basic

/-!
# Reading what has been written as UTF-8

The bytes of a character are read as this character, whatever follows them: the first byte says how
many follow and into which range the second one must fall, each further byte adds six bits. Hence
every text is read back from its bytes (`Text.Utf8.text?_bytesOf`).
-/

namespace DuplexStream.Text.Utf8

/-- A number below 256 is read back from its byte. -/
theorem toNat_byte {n : Nat} (small : n < 256) : (UInt8.ofNat n).toNat = n := by
  rw [UInt8.toNat_ofNat']
  exact Nat.mod_eq_of_lt small

theorem toNat_continuation (n : Nat) : (continuation n).toNat = 0x80 + n % 64 := by
  apply toNat_byte
  omega

theorem contains_anyContinuation (n : Nat) : anyContinuation.contains (continuation n) = true := by
  simp only [ByteRange.contains, anyContinuation, toNat_continuation, decide_eq_true_eq]
  omega

section Leads

variable {n : Nat}

theorem lead_one (small : n < 0x80) : lead (UInt8.ofNat n) = .complete (Char.ofNat n) := by
  simp only [lead, toNat_byte (show n < 256 by omega), if_pos small]

theorem lead_two (large : 0x80 ≤ n) (small : n < 0x800) :
    lead (UInt8.ofNat (0xC0 + n / 64)) = .needs ⟨n / 64, anyContinuation, []⟩ := by
  have byte : (UInt8.ofNat (0xC0 + n / 64)).toNat = 0xC0 + n / 64 := by
    apply toNat_byte
    omega
  simp only [lead, byte, if_neg (show ¬ 0xC0 + n / 64 < 0x80 by omega),
    if_neg (show ¬ 0xC0 + n / 64 < 0xC2 by omega), if_pos (show 0xC0 + n / 64 < 0xE0 by omega),
    Nat.add_sub_cancel_left]

/-- The range of the second byte excludes what would fit into two bytes, and the surrogates. -/
theorem lead_three (large : 0x800 ≤ n) (small : n < 0x10000) (valid : n.isValidChar) :
    ∃ r : ByteRange, lead (UInt8.ofNat (0xE0 + n / 4096)) =
        .needs ⟨n / 4096, r, [anyContinuation]⟩ ∧
      r.contains (continuation (n / 64)) = true := by
  have byte : (UInt8.ofNat (0xE0 + n / 4096)).toNat = 0xE0 + n / 4096 := by
    apply toNat_byte
    omega
  have surrogate : n < 0xD800 ∨ 0xDFFF < n := valid.imp id And.left
  simp only [lead, byte, if_neg (show ¬ 0xE0 + n / 4096 < 0x80 by omega),
    if_neg (show ¬ 0xE0 + n / 4096 < 0xC2 by omega),
    if_neg (show ¬ 0xE0 + n / 4096 < 0xE0 by omega)]
  by_cases low : n / 4096 = 0
  · refine ⟨⟨0xA0, 0xBF⟩, by simp [low], ?_⟩
    simp only [ByteRange.contains, toNat_continuation, decide_eq_true_eq]
    omega
  · by_cases middle : n / 4096 = 0xD
    · refine ⟨⟨0x80, 0x9F⟩, by simp [middle], ?_⟩
      simp only [ByteRange.contains, toNat_continuation, decide_eq_true_eq]
      omega
    · refine ⟨anyContinuation, ?_, contains_anyContinuation _⟩
      rw [if_neg (by omega), if_neg (by omega), if_pos (by omega), Nat.add_sub_cancel_left]

/-- The range of the second byte excludes what would fit into three bytes, and what lies beyond the
last code point. -/
theorem lead_four (large : 0x10000 ≤ n) (small : n < 0x110000) :
    ∃ r : ByteRange, lead (UInt8.ofNat (0xF0 + n / 262144)) =
        .needs ⟨n / 262144, r, [anyContinuation, anyContinuation]⟩ ∧
      r.contains (continuation (n / 4096)) = true := by
  have byte : (UInt8.ofNat (0xF0 + n / 262144)).toNat = 0xF0 + n / 262144 := by
    apply toNat_byte
    omega
  simp only [lead, byte, if_neg (show ¬ 0xF0 + n / 262144 < 0x80 by omega),
    if_neg (show ¬ 0xF0 + n / 262144 < 0xC2 by omega),
    if_neg (show ¬ 0xF0 + n / 262144 < 0xE0 by omega),
    if_neg (show ¬ 0xF0 + n / 262144 = 0xE0 by omega),
    if_neg (show ¬ 0xF0 + n / 262144 = 0xED by omega),
    if_neg (show ¬ 0xF0 + n / 262144 < 0xF0 by omega)]
  by_cases low : n / 262144 = 0
  · refine ⟨⟨0x90, 0xBF⟩, by simp [low], ?_⟩
    simp only [ByteRange.contains, toNat_continuation, decide_eq_true_eq]
    omega
  · by_cases high : n / 262144 = 4
    · refine ⟨⟨0x80, 0x8F⟩, by simp [high], ?_⟩
      simp only [ByteRange.contains, toNat_continuation, decide_eq_true_eq]
      omega
    · refine ⟨anyContinuation, ?_, contains_anyContinuation _⟩
      rw [if_neg (by omega), if_pos (by omega), Nat.add_sub_cancel_left]

end Leads

section Steps

variable {p : Partial} {b : UInt8} {n bits : Nat} {r r' : ByteRange} {more : List ByteRange}
  (bs : List UInt8)

theorem decodeFrom_lead (needs : lead b = .needs p) :
    decodeFrom none (b :: bs) = decodeFrom (some p) bs := by
  simp only [decodeFrom, feed, needs]

/-- A further byte adds six bits. -/
theorem decodeFrom_more (fits : r.contains (continuation n) = true) :
    decodeFrom (some ⟨bits, r, r' :: more⟩) (continuation n :: bs) =
      decodeFrom (some ⟨bits * 64 + n % 64, r', more⟩) bs := by
  have low : (0x80 + n % 64) % 64 = n % 64 := by omega
  simp only [decodeFrom, feed, Partial.feed, fits, if_true, toNat_continuation, low]

/-- The last byte completes the character. -/
theorem decodeFrom_last (fits : r.contains (continuation n) = true) :
    decodeFrom (some ⟨bits, r, []⟩) (continuation n :: bs) =
      (decodeFrom none bs).map (Char.ofNat (bits * 64 + n % 64) :: ·) := by
  have low : (0x80 + n % 64) % 64 = n % 64 := by omega
  simp only [decodeFrom, feed, Partial.feed, fits, if_true, toNat_continuation, low]

end Steps

/-- The bytes of a character are read as this character, and the reading goes on behind them. -/
theorem decodeFrom_encodeChar (c : Char) (bs : List UInt8) :
    decodeFrom none (encodeChar c ++ bs) = (decodeFrom none bs).map (c :: ·) := by
  have valid : c.toNat.isValidChar := c.valid
  have range : c.toNat < 0x110000 := by
    rcases valid with low | ⟨_, high⟩
    · omega
    · exact high
  have same (m : Nat) (bits : m = c.toNat) : Char.ofNat m = c := bits ▸ Char.ofNat_toNat c
  generalize hn : c.toNat = n at valid range same
  simp only [encodeChar, hn]
  by_cases one : n < 0x80
  · rw [if_pos one, List.singleton_append, ← same n rfl]
    simp only [decodeFrom, feed, lead_one one]
  · by_cases two : n < 0x800
    · rw [if_neg one, if_pos two, List.cons_append, List.cons_append, List.nil_append,
        decodeFrom_lead _ (lead_two (Nat.not_lt.mp one) two),
        decodeFrom_last _ (contains_anyContinuation n), same _ (by omega)]
    · by_cases three : n < 0x10000
      · obtain ⟨r, needs, fits⟩ := lead_three (Nat.not_lt.mp two) three valid
        rw [if_neg one, if_neg two, if_pos three, List.cons_append, List.cons_append,
          List.cons_append, List.nil_append, decodeFrom_lead _ needs, decodeFrom_more _ fits,
          decodeFrom_last _ (contains_anyContinuation n), same _ (by omega)]
      · obtain ⟨r, needs, fits⟩ := lead_four (Nat.not_lt.mp three) range
        rw [if_neg one, if_neg two, if_neg three, List.cons_append, List.cons_append,
          List.cons_append, List.cons_append, List.nil_append, decodeFrom_lead _ needs,
          decodeFrom_more _ fits, decodeFrom_more _ (contains_anyContinuation _),
          decodeFrom_last _ (contains_anyContinuation n), same _ (by omega)]

theorem decode?_encode (cs : List Char) : decode? (encode cs) = some cs := by
  induction cs with
  | nil => rfl
  | cons c cs ih =>
      calc decode? (encode (c :: cs)) = decodeFrom none (encodeChar c ++ encode cs) := rfl
        _ = (decode? (encode cs)).map (c :: ·) := decodeFrom_encodeChar c (encode cs)
        _ = some (c :: cs) := by rw [ih, Option.map_some]

/-- Every text is read back from its bytes. -/
theorem text?_bytesOf (s : String) : text? (bytesOf s) = some s := by
  rw [text?, bytesOf, decode?_encode, Option.map_some, String.ofList_toList]

end DuplexStream.Text.Utf8
