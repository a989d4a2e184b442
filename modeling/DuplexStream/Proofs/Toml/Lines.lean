import DuplexStream.Proofs.Toml.Literals
import DuplexStream.Toml.Document

/-!
# Lines as they are written

A document of headers and of keys with literals, one to a line, is read line by line: each line is
read as what it says, and what follows it is left.
-/

namespace DuplexStream.Toml

open Text (isDigit)

/-- A key that needs no quotes. -/
abbrev BareName :=
  {name : String // name.toList ≠ [] ∧ name.toList.all isBareChar = true}

/-- A line of a document: the header of a table, or a key with its value. -/
inductive Line where
  | header (name : BareName)
  | assign (key : BareName) (value : Literal)

namespace Line

def spelling : Line → List Char
  | header name => '[' :: (name.1.toList ++ [']', lineFeed])
  | assign key value => key.1.toList ++ (' ' :: '=' :: ' ' :: (value.spelling ++ [lineFeed]))

/-- What the line says, if its value is one. -/
def statement? : Line → Option Statement
  | header name => some (.header [name.1])
  | assign key value => value.node?.map (.assign [] key.1)

end Line

section Names

variable {c : Char} {cs : List Char}

theorem skipSpaces_cons (inked : isSpace c = false) : skipSpaces (c :: cs) = c :: cs :=
  List.dropWhile_cons_of_neg (by simp [inked])

/-- A character of a bare key is no space, no quote, and no mark of the grammar. -/
theorem ne_of_isBareChar {d : Char} (bare : isBareChar c = true) (other : isBareChar d = false) :
    c ≠ d := fun same => by simp [same, other] at bare

theorem isSpace_of_isBareChar (bare : isBareChar c = true) : isSpace c = false := by
  simp [isSpace, ne_of_isBareChar bare (d := ' ') (by decide),
    ne_of_isBareChar bare (d := Char.ofNat 9) (by decide)]

theorem isBareChar_of_mem (name : BareName) : ∀ c ∈ name.1.toList, isBareChar c = true :=
  List.all_eq_true.1 name.2.2

/-- A name is a character and the others. -/
theorem exists_cons (name : BareName) :
    ∃ c cs, name.1.toList = c :: cs ∧ isBareChar c = true := by
  cases same : name.1.toList with
  | nil => exact absurd same name.2.1
  | cons c cs => exact ⟨c, cs, rfl, isBareChar_of_mem name c (by simp [same])⟩

theorem readKeyPart_name (name : BareName) (other : isBareChar c = false) (cs : List Char) :
    readKeyPart (name.1.toList ++ c :: cs) = some (name.1, c :: cs) := by
  obtain ⟨taken, left⟩ := span_at (isBareChar_of_mem name) other cs
  obtain ⟨first, more, same, bare⟩ := exists_cons name
  have noQuote : (first == doubleQuote || first == singleQuote) = false := by
    simp [ne_of_isBareChar bare (d := doubleQuote) (by decide),
      ne_of_isBareChar bare (d := singleQuote) (by decide)]
  rw [same] at taken left ⊢
  simp only [List.cons_append] at taken left ⊢
  simp only [readKeyPart, noQuote, taken, left, Bool.false_eq_true, if_false, List.isEmpty_cons]
  rw [← same, String.ofList_toList]

/-- A name is the only part of a key unless a dot follows. -/
theorem readKeyParts_name (n : Nat) (name : BareName) {after : List Char}
    (other : isBareChar c = false) (skipped : skipSpaces (c :: cs) = after)
    (noDot : after.head? ≠ some '.') :
    readKeyParts (n + 1) (name.1.toList ++ c :: cs) = some ([name.1], after) := by
  obtain ⟨first, more, same, bare⟩ := exists_cons name
  have start : skipSpaces (name.1.toList ++ c :: cs) = name.1.toList ++ c :: cs := by
    rw [same]
    exact skipSpaces_cons (isSpace_of_isBareChar bare)
  rw [readKeyParts, start, readKeyPart_name name other]
  simp only [skipped]
  split
  · simp at noDot
  · rfl

end Names

section Words

/-- The characters are ones of a word. -/
def IsWord (cs : List Char) : Prop :=
  ∀ c ∈ cs, isWordChar c = true

theorem IsWord.append {cs cs' : List Char} (front : IsWord cs) (back : IsWord cs') :
    IsWord (cs ++ cs') :=
  List.forall_mem_append.2 ⟨front, back⟩

theorem IsWord.cons {c : Char} {cs : List Char} (front : isWordChar c = true) (back : IsWord cs) :
    IsWord (c :: cs) :=
  List.forall_mem_cons.2 ⟨front, back⟩

theorem isWordChar_of_isDigit {c : Char} (digit : isDigit c = true) : isWordChar c = true := by
  simp [isWordChar, digit]

theorem isWordChar_of_isDigitOf {base : Nat} {c : Char} (digit : isDigitOf base c = true) :
    isWordChar c = true := by
  by_contra other
  have noDigit : hexValue c = none := by
    simp only [isWordChar, Bool.or_eq_true, Bool.and_eq_true, decide_eq_true_eq, not_or] at other
    obtain ⟨⟨⟨⟨⟨⟨⟨noDigit, noSmall⟩, noLarge⟩, -⟩, -⟩, -⟩, -⟩, -⟩ := other
    have noSmall' : ¬ ('a' ≤ c ∧ c ≤ 'f') := fun h => noSmall ⟨h.1, Char.le_trans h.2 (by decide)⟩
    have noLarge' : ¬ ('A' ≤ c ∧ c ≤ 'F') := fun h => noLarge ⟨h.1, Char.le_trans h.2 (by decide)⟩
    simp [hexValue, noDigit, noSmall', noLarge']
  simp [isDigitOf, noDigit] at digit

theorem isWord_digits {ok : Char → Bool} (mark : ok '_' = false)
    (inside : ∀ c, ok c = true → isWordChar c = true) (d : Digits ok) : IsWord d.spelling := by
  intro c mem
  rcases mem_spelling mark mem with digit | rfl
  · exact inside c digit
  · decide

theorem isWord_decimals (d : Digits isDigit) : IsWord d.spelling :=
  isWord_digits (by decide) (fun _ => isWordChar_of_isDigit) d

theorem isWord_sign (sign : Sign) : IsWord sign.spelling := by
  cases sign <;> simp [IsWord, Sign.spelling] <;> decide

theorem isWord_exponent (e : Exponent) : IsWord e.spelling := by
  have mark : isWordChar e.mark = true := by
    rcases e.mark_cases with h | h <;> rw [h] <;> decide
  exact .cons mark ((isWord_sign _).append (isWord_decimals _))

theorem isWord_tail (tail : RealTail) : IsWord tail.spelling := by
  cases tail with
  | fraction places e =>
      cases e with
      | none => exact .cons (by decide) ((isWord_decimals places).append nofun)
      | some e => exact .cons (by decide) ((isWord_decimals places).append (isWord_exponent e))
  | exponent e => exact isWord_exponent e

/-- A literal is a word. -/
theorem isWord_literal (l : Literal) : IsWord l.spelling := by
  cases l with
  | integer l =>
      cases l with
      | decimal sign digits => exact (isWord_sign sign).append (isWord_decimals digits)
      | based base digits =>
          have mark : isWordChar base.mark = true := by cases base <;> decide
          have others := isWord_digits (isDigitOf_underscore base.value)
            (fun _ => isWordChar_of_isDigitOf) digits
          exact .cons (by decide) (.cons mark others)
  | real l =>
      cases l with
      | decimal sign digits canonical tail =>
          exact (isWord_sign sign).append ((isWord_decimals digits).append (isWord_tail tail))
      | infinity sign => exact (isWord_sign sign).append (by simp [IsWord]; decide)
      | nan sign => exact (isWord_sign sign).append (by simp [IsWord]; decide)
  | boolean b => cases b <;> simp [Literal.spelling, IsWord] <;> decide

end Words

section Reading

theorem readHeader_name (name : BareName) (cs : List Char) :
    readHeader [']'] (name.1.toList ++ ']' :: lineFeed :: cs) = some ([name.1], cs) := by
  have inked : skipSpaces (']' :: lineFeed :: cs) = ']' :: lineFeed :: cs :=
    skipSpaces_cons (by decide)
  have read := readKeyParts_name 78 name (by decide) inked (by simp)
  have closed : [']'].isPrefixOf (']' :: lineFeed :: cs) = true := by simp
  simp only [readHeader, depthLimit, read, closed, if_true]
  rfl

theorem readKey_name (name : BareName) (cs : List Char) :
    readKey (name.1.toList ++ ' ' :: '=' :: cs) = some (([], name.1), '=' :: cs) := by
  have skipped : skipSpaces (' ' :: '=' :: cs) = '=' :: cs := rfl
  have read := readKeyParts_name 78 name (by decide) skipped (by simp)
  simp only [readKey, depthLimit, read]
  rfl

theorem exists_word (l : Literal) : ∃ c cs, l.spelling = c :: cs := by
  cases l with
  | integer l =>
      obtain ⟨sign, c, cs, same, -⟩ := l.exists_numeral
      cases sign <;> exact ⟨_, _, same⟩
  | real l =>
      cases l with
      | decimal sign => cases sign <;> exact ⟨_, _, rfl⟩
      | infinity sign => cases sign <;> exact ⟨_, _, rfl⟩
      | nan sign => cases sign <;> exact ⟨_, _, rfl⟩
  | boolean b => cases b <;> exact ⟨_, _, rfl⟩

/-- A literal in front of a line break is read as its value. -/
theorem readScalar_literal (l : Literal) (cs : List Char) :
    readScalar (l.spelling ++ lineFeed :: cs) = l.node?.map fun v => (v, lineFeed :: cs) := by
  obtain ⟨taken, left⟩ := span_at (isWord_literal l) (c := lineFeed) (by decide) cs
  simp only [readScalar, taken, left, scalar?_spelling]
  rfl

theorem readValue_literal (n : Nat) (l : Literal) (cs : List Char) :
    readValue n (l.spelling ++ lineFeed :: cs) = l.node?.map fun v => (v, lineFeed :: cs) := by
  obtain ⟨c, word, same⟩ := exists_word l
  have inside : isWordChar c = true := isWord_literal l c (by simp [same])
  have differs {d : Char} (other : isWordChar d = false) : (c == d) = false := by
    rw [beq_eq_false_iff_ne]
    rintro rfl
    simp [inside] at other
  rw [← readScalar_literal, same, List.cons_append, readValue.eq_def]
  simp only [differs (d := doubleQuote) (by decide), differs (d := singleQuote) (by decide),
    differs (d := '[') (by decide), differs (d := '{') (by decide), Bool.or_self,
    Bool.false_eq_true, if_false]

theorem readPair_line (key : BareName) (l : Literal) (cs : List Char) :
    readPair (readValue depthLimit) ((Line.assign key l).spelling ++ cs) =
      l.node?.map fun v => (([], key.1, v), lineFeed :: cs) := by
  obtain ⟨c, word, same⟩ := exists_word l
  have inked : isSpace c = false := by
    have inside : isWordChar c = true := isWord_literal l c (by simp [same])
    by_contra space
    simp only [isSpace, Bool.not_eq_false, Bool.or_eq_true, beq_iff_eq] at space
    rcases space with rfl | rfl <;> simp [isWordChar, isDigit] at inside
  have start : skipSpaces (' ' :: (l.spelling ++ lineFeed :: cs)) =
      l.spelling ++ lineFeed :: cs := by
    rw [same]
    exact skipSpaces_cons inked
  simp only [Line.spelling, List.append_assoc, List.cons_append, List.nil_append, readPair,
    readKey_name, start, readValue_literal]
  cases l.node? with
  | none => rfl
  | some v => rfl

theorem readStatement_cons {c : Char} (noHeader : c ≠ '[') (cs : List Char) :
    readStatement (c :: cs) =
      match readPair (readValue depthLimit) (c :: cs) with
      | some ((path, key, v), rest) => (afterLine rest).map fun after => (.assign path key v, after)
      | none => none := by
  unfold readStatement
  split
  · exact absurd (List.cons.inj ‹_›).1 noHeader
  · exact absurd (List.cons.inj ‹_›).1 noHeader
  · rfl

theorem readStatement_bracket {c : Char} (single : c ≠ '[') (cs : List Char) :
    readStatement ('[' :: c :: cs) =
      (readHeader [']'] (c :: cs)).map fun (path, after) => (.header path, after) := by
  unfold readStatement
  split
  · exact absurd (List.cons.inj (List.cons.inj ‹_›).2).1 single
  · obtain ⟨-, rfl⟩ := List.cons.inj ‹_›
    rfl
  · rename_i other
    exact absurd rfl (other _)

/-- A line is read as what it says. -/
theorem readStatement_line (l : Line) (cs : List Char) :
    readStatement (l.spelling ++ cs) = l.statement?.map fun s => (s, cs) := by
  cases l with
  | header name =>
      obtain ⟨c, more, same, bare⟩ := exists_cons name
      have single : c ≠ '[' := ne_of_isBareChar bare (by decide)
      have read := readHeader_name name cs
      simp only [Line.spelling, List.cons_append, List.append_assoc, List.nil_append]
      rw [same, List.cons_append] at read ⊢
      rw [readStatement_bracket single, read]
      rfl
  | assign key l =>
      obtain ⟨c, more, same, bare⟩ := exists_cons key
      have read := readPair_line key l cs
      have front : (Line.assign key l).spelling ++ cs = c :: (more ++ (' ' :: '=' :: ' ' ::
          (l.spelling ++ [lineFeed])) ++ cs) := by
        rw [Line.spelling, same]
        rfl
      rw [front] at read ⊢
      rw [readStatement_cons (ne_of_isBareChar bare (by decide)), read]
      cases value : l.node? with
      | none => simp [Line.statement?, value]
      | some v =>
          simp only [Line.statement?, value, Option.map_some]
          rfl

theorem afterBreak_cons {c : Char} (noFeed : c ≠ lineFeed) (noReturn : c ≠ carriageReturn)
    (cs : List Char) : afterBreak (c :: cs) = none := by
  simp [afterBreak, noFeed, noReturn]

/-- The first character of a line begins neither a blank line nor a comment, and is no mark of the
byte order. -/
theorem Line.exists_cons (l : Line) : ∃ c more, l.spelling = c :: more ∧ isSpace c = false ∧
    (c == '#') = false ∧ (∀ cs, afterBreak (c :: cs) = none) ∧ c.toNat ≠ 0xFEFF := by
  cases l with
  | header name =>
      exact ⟨'[', _, rfl, by decide, by decide, afterBreak_cons (by decide) (by decide), by decide⟩
  | assign key value =>
      obtain ⟨c, more, same, bare⟩ := Toml.exists_cons key
      have differs {d : Char} (other : isBareChar d = false) : c ≠ d := ne_of_isBareChar bare other
      refine ⟨c, _, by rw [Line.spelling, same]; rfl, isSpace_of_isBareChar bare, ?_, ?_, ?_⟩
      · exact beq_eq_false_iff_ne.2 (differs (by decide))
      · exact afterBreak_cons (differs (by decide)) (differs (by decide))
      · intro mark
        refine differs (d := Char.ofNat 0xFEFF) (by decide) ?_
        rw [← mark, Char.ofNat_toNat]

/-- A line in front of others is read, then the others. -/
theorem readStatements_line (l : Line) (cs : List Char) :
    readStatements (l.spelling ++ cs) =
      l.statement?.bind fun s => (readStatements cs).map (s :: ·) := by
  obtain ⟨c, more, same, inked, noComment, noBreak, -⟩ := l.exists_cons
  have read := readStatement_line l cs
  have shorter : cs.length < (l.spelling ++ cs).length := by
    rw [same, List.cons_append, List.length_cons, List.length_append]
    omega
  rw [same, List.cons_append] at read shorter ⊢
  rw [readStatements, skipSpaces_cons inked]
  simp only [noComment, Bool.false_eq_true, if_false, noBreak, read]
  cases value : l.statement? with
  | none => rfl
  | some s =>
      simp only [Option.map_some, if_pos shorter, Option.bind_some]

/-- A document is read line by line. -/
theorem readStatements_lines (ls : List Line) :
    readStatements (ls.flatMap Line.spelling) = ls.mapM Line.statement? := by
  induction ls with
  | nil =>
      rw [readStatements.eq_def]
      rfl
  | cons l ls ih =>
      rw [List.flatMap_cons, readStatements_line, ih, List.mapM_cons]
      cases l.statement? with
      | none => rfl
      | some s => cases ls.mapM Line.statement? <;> rfl

theorem dropMark_lines (ls : List Line) :
    dropMark (ls.flatMap Line.spelling) = ls.flatMap Line.spelling := by
  cases ls with
  | nil => rfl
  | cons l ls =>
      obtain ⟨c, more, same, -, -, -, noMark⟩ := l.exists_cons
      rw [List.flatMap_cons, same, List.cons_append, dropMark, if_neg noMark]

/-- A text of such lines. -/
def textOf (ls : List Line) : String :=
  String.ofList (ls.flatMap Line.spelling)

theorem readStatements_textOf (ls : List Line) :
    readStatements (dropMark (textOf ls).toList) = ls.mapM Line.statement? := by
  rw [textOf, String.toList_ofList, dropMark_lines, readStatements_lines]

end Reading

end DuplexStream.Toml
