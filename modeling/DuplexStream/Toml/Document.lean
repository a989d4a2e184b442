import DuplexStream.Toml.Text

/-!
# Documents

A document is a list of lines: blank ones, comments, headers, and keys with values. `parse?` reads
a whole document into its tree; there is none if the text is not well-formed or says something
twice.
-/

namespace DuplexStream.Toml

/-- How deep arrays and inline tables nest, and how many parts a dotted key has, at most. -/
def depthLimit : Nat := 79

/-- A character of a bare key. -/
def isBareChar (c : Char) : Bool :=
  Text.isDigit c || ('a' ≤ c && c ≤ 'z') || ('A' ≤ c && c ≤ 'Z') || c == '_' || c == '-'

/-- Passes over spaces. -/
def skipSpaces (cs : List Char) : List Char :=
  cs.dropWhile isSpace

/-- Reads one part of a key. -/
def readKeyPart (cs : List Char) : Option (String × List Char) :=
  match cs with
  | [] => none
  | c :: rest =>
    if c == doubleQuote || c == singleQuote then
      (readLineText c rest).map fun (text, after) => (String.ofList text, after)
    else
      let bare := cs.takeWhile isBareChar
      if bare.isEmpty then none else some (String.ofList bare, cs.dropWhile isBareChar)

/-- Reads a key of at most `n` parts with the spaces around it. -/
def readKeyParts : Nat → List Char → Option (List String × List Char)
  | 0, _ => none
  | n + 1, cs =>
    match readKeyPart (skipSpaces cs) with
    | none => none
    | some (part, rest) =>
      match skipSpaces rest with
      | '.' :: rest' => (readKeyParts n rest').map fun (parts, after) => (part :: parts, after)
      | rest' => some ([part], rest')

/-- Reads a key: its parts but the last, and the last. -/
def readKey (cs : List Char) : Option ((List String × String) × List Char) :=
  match readKeyParts depthLimit cs with
  | some (parts, rest) => parts.getLast?.map fun last => ((parts.dropLast, last), rest)
  | none => none

/-- Passes over a comment. -/
def skipComment (cs : List Char) : List Char :=
  match cs with
  | '#' :: rest => rest.dropWhile isPlain
  | _ => cs

/-- Passes over spaces, line breaks and comments. -/
def skipLines (cs : List Char) : List Char :=
  match skipBreaks cs with
  | '#' :: rest =>
    let rest' := rest.dropWhile isPlain
    if rest'.length < cs.length then skipLines rest' else rest'
  | rest => rest
termination_by cs.length

/-- Reads the items of an array up to its closing bracket. The last one may have a comma behind
it. -/
def readItems (item : List Char → Option (Node × List Char)) (cs : List Char) :
    Option (List Node × List Char) :=
  match skipLines cs with
  | ']' :: rest => some ([], rest)
  | start =>
    match item start with
    | none => none
    | some (v, rest) =>
      match skipLines rest with
      | ',' :: rest' =>
        if rest'.length < cs.length then
          (readItems item rest').map fun (vs, after) => (v :: vs, after)
        else none
      | ']' :: rest' => some ([v], rest')
      | _ => none
termination_by cs.length

/-- Reads a key and its value, with the spaces around the value. -/
def readPair (value : List Char → Option (Node × List Char)) (cs : List Char) :
    Option ((List String × String × Node) × List Char) :=
  match readKey cs with
  | some ((path, key), '=' :: rest) =>
    (value (skipSpaces rest)).map fun (v, after) => ((path, key, v), skipSpaces after)
  | _ => none

/-- Reads the pairs of an inline table up to its closing brace. No comma stands behind the last
one. -/
def readPairs (value : List Char → Option (Node × List Char)) (cs : List Char) :
    Option (List (List String × String × Node) × List Char) :=
  match readPair value cs with
  | none => none
  | some (pair, rest) =>
    match rest with
    | ',' :: rest' =>
      if rest'.length < cs.length then
        (readPairs value rest').map fun (pairs, after) => (pair :: pairs, after)
      else none
    | '}' :: rest' => some ([pair], rest')
    | _ => none
termination_by cs.length

/-- Reads an inline table behind its opening brace. -/
def readInline (value : List Char → Option (Node × List Char)) (cs : List Char) :
    Option (Node × List Char) :=
  match skipSpaces cs with
  | '}' :: rest => some (.table .inline [], rest)
  | start =>
    match readPairs value start with
    | some (pairs, rest) => (inlineTable pairs []).map fun es => (.table .inline es, rest)
    | none => none

/-- Reads a value in which arrays and inline tables nest at most `n` deep. -/
def readValue : Nat → List Char → Option (Node × List Char)
  | n, cs =>
    match cs with
    | [] => none
    | c :: rest =>
      if c == doubleQuote || c == singleQuote then
        (readText c rest).map fun (text, after) => (.text (String.ofList text), after)
      else if c == '[' then
        match n with
        | 0 => none
        | n + 1 => (readItems (readValue n) rest).map fun (vs, after) => (.array vs, after)
      else if c == '{' then
        match n with
        | 0 => none
        | n + 1 => readInline (readValue n) rest
      else readScalar cs

/-- What follows the end of a line: spaces, perhaps a comment, and a line break or nothing. -/
def afterLine (cs : List Char) : Option (List Char) :=
  match skipComment (skipSpaces cs) with
  | [] => some []
  | rest => afterBreak rest

/-- Reads a header behind its opening brackets up to its closing ones. -/
def readHeader (closing : List Char) (cs : List Char) : Option (List String × List Char) :=
  match readKeyParts depthLimit cs with
  | some (path, rest) =>
    if closing.isPrefixOf rest then
      (afterLine (rest.drop closing.length)).map fun after => (path, after)
    else none
  | none => none

/-- Reads a line that says something. -/
def readStatement (cs : List Char) : Option (Statement × List Char) :=
  match cs with
  | '[' :: '[' :: rest =>
    (readHeader [']', ']'] rest).map fun (path, after) => (.element path, after)
  | '[' :: rest => (readHeader [']'] rest).map fun (path, after) => (.header path, after)
  | _ =>
    match readPair (readValue depthLimit) cs with
    | some ((path, key, v), rest) =>
      (afterLine rest).map fun after => (.assign path key v, after)
    | none => none

/-- Reads the lines of a document. -/
def readStatements (cs : List Char) : Option (List Statement) :=
  match skipSpaces cs with
  | [] => some []
  | c :: rest =>
    let blank := if c == '#' then afterLine (c :: rest) else afterBreak (c :: rest)
    match blank with
    | some rest' => if rest'.length < cs.length then readStatements rest' else none
    | none =>
      match readStatement (c :: rest) with
      | some (s, rest') =>
        if rest'.length < cs.length then (readStatements rest').map (s :: ·) else none
      | none => none
termination_by cs.length

/-- A text without a byte order mark at its front. -/
def dropMark (cs : List Char) : List Char :=
  match cs with
  | c :: rest => if c.toNat = 0xFEFF then rest else cs
  | [] => []

/-- The tree of a document. -/
def parse? (text : String) : Option Entries :=
  match readStatements (dropMark text.toList) with
  | some statements => entriesOf statements
  | none => none

end DuplexStream.Toml
