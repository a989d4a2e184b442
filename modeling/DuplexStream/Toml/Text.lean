import DuplexStream.Toml.Scalar

/-!
# Texts of a document

A text stands in double quotes, with escapes, or in single quotes, without. Three quotes open a
text of several lines: a line break right behind them does not belong to it, one or two quotes may
stand inside it, and up to two of them right before the closing ones.
-/

namespace DuplexStream.Toml

/-- The single quote. -/
def singleQuote : Char := Char.ofNat 39

/-- The double quote. -/
def doubleQuote : Char := Char.ofNat 34

/-- The backslash. -/
def backslash : Char := Char.ofNat 92

/-- The line feed. -/
def lineFeed : Char := Char.ofNat 10

/-- The carriage return. -/
def carriageReturn : Char := Char.ofNat 13

/-- A space or a tab. -/
def isSpace (c : Char) : Bool :=
  c == ' ' || c == Char.ofNat 9

/-- A character that may stand in a text or a comment as it is: no control character but the
tab. -/
def isPlain (c : Char) : Bool :=
  let n := c.toNat
  n == 9 || (0x20 ≤ n && n != 0x7F)

/-- What follows a line break, if there is one: a line feed, perhaps behind a carriage return. -/
def afterBreak : List Char → Option (List Char)
  | a :: rest =>
    if a == lineFeed then some rest
    else if a == carriageReturn then
      match rest with
      | b :: rest' => if b == lineFeed then some rest' else none
      | [] => none
    else none
  | [] => none

/-- The code point of hexadecimal digits, if it is a character. -/
def hexChar (cs : List Char) : Option Char :=
  if cs.all fun c => (hexValue c).isSome then
    let n := Text.valueOfDigits 16 (cs.map fun c => (hexValue c).getD 0)
    if n.isValidChar then some (Char.ofNat n) else none
  else none

/-- The character of an escape behind its backslash, and what follows. -/
def readEscape : List Char → Option (Char × List Char)
  | 'b' :: rest => some (Char.ofNat 8, rest)
  | 't' :: rest => some (Char.ofNat 9, rest)
  | 'n' :: rest => some (lineFeed, rest)
  | 'f' :: rest => some (Char.ofNat 12, rest)
  | 'r' :: rest => some (carriageReturn, rest)
  | 'u' :: a :: b :: c :: d :: rest => (hexChar [a, b, c, d]).map fun ch => (ch, rest)
  | 'U' :: a :: b :: c :: d :: e :: f :: g :: h :: rest =>
    (hexChar [a, b, c, d, e, f, g, h]).map fun ch => (ch, rest)
  | c :: rest => if c == doubleQuote || c == backslash then some (c, rest) else none
  | [] => none

/-- Reads a text of one line up to its closing quote. -/
def readLineText (quote : Char) (cs : List Char) : Option (List Char × List Char) :=
  match cs with
  | [] => none
  | c :: rest =>
    if c == quote then some ([], rest)
    else if c == backslash && quote == doubleQuote then
      match readEscape rest with
      | some (ch, rest') =>
        if rest'.length ≤ rest.length then
          (readLineText quote rest').map fun (text, after) => (ch :: text, after)
        else none
      | none => none
    else if isPlain c then
      (readLineText quote rest).map fun (text, after) => (c :: text, after)
    else none
termination_by cs.length

/-- Passes over spaces and line breaks. -/
def skipBreaks (cs : List Char) : List Char :=
  match cs with
  | [] => []
  | c :: rest =>
    if isSpace c then skipBreaks rest
    else
      match afterBreak (c :: rest) with
      | some rest' => if rest'.length ≤ rest.length then skipBreaks rest' else c :: rest
      | none => c :: rest
termination_by cs.length

/-- What follows a backslash that ends a line: it joins the line with the next text. -/
def afterJoin (cs : List Char) : Option (List Char) :=
  (afterBreak (cs.dropWhile isSpace)).map skipBreaks

/-- Reads a text of several lines up to its closing quotes. -/
def readLinesText (quote : Char) (cs : List Char) : Option (List Char × List Char) :=
  match cs with
  | [] => none
  | c :: rest =>
    if c == quote then
      let quotes := (c :: rest).takeWhile (· == quote)
      if quotes.length < 3 then
        (readLinesText quote rest).map fun (text, after) => (c :: text, after)
      else
        let inside := min 2 (quotes.length - 3)
        some (List.replicate inside quote, (c :: rest).drop (inside + 3))
    else if c == backslash && quote == doubleQuote then
      match readEscape rest with
      | some (ch, rest') =>
        if rest'.length ≤ rest.length then
          (readLinesText quote rest').map fun (text, after) => (ch :: text, after)
        else none
      | none =>
        match afterJoin rest with
        | some rest' => if rest'.length ≤ rest.length then readLinesText quote rest' else none
        | none => none
    else
      match afterBreak (c :: rest) with
      | some rest' =>
        if rest'.length ≤ rest.length then
          (readLinesText quote rest').map fun (text, after) => (lineFeed :: text, after)
        else none
      | none =>
        if isPlain c then
          (readLinesText quote rest).map fun (text, after) => (c :: text, after)
        else none
termination_by cs.length

/-- Reads a text behind its opening quote. Two quotes more make it a text of several lines. -/
def readText (quote : Char) (cs : List Char) : Option (List Char × List Char) :=
  match cs with
  | a :: b :: rest =>
    if a == quote && b == quote then readLinesText quote ((afterBreak rest).getD rest)
    else readLineText quote cs
  | _ => readLineText quote cs

end DuplexStream.Toml
