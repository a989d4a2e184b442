/-!
# Addresses

An address is usable when it reads as an absolute URI: a scheme, an authority, and perhaps a path,
a query and a fragment. Only characters are checked, each part by its own set; the authority also
has to balance its brackets and to hold at most one colon outside them.
-/

namespace DuplexStream.Address

/-- An ASCII letter or digit. -/
def isAlphanumeric (c : Char) : Bool :=
  ('a' ≤ c && c ≤ 'z') || ('A' ≤ c && c ≤ 'Z') || ('0' ≤ c && c ≤ '9')

/-- A character of a scheme. -/
def isSchemeChar (c : Char) : Bool :=
  isAlphanumeric c || c == '+' || c == '-' || c == '.'

/-- A character of an authority. -/
def isAuthorityChar (c : Char) : Bool :=
  isAlphanumeric c || "!$&'()*+,-.:;=@[]_~".toList.contains c

/-- A character of a path. -/
def isPathChar (c : Char) : Bool :=
  let n := c.toNat
  n == 0x21 || n == 0x22 || (0x24 ≤ n && n ≤ 0x3B) || n == 0x3D || (0x40 ≤ n && n ≤ 0x5F) ||
    (0x61 ≤ n && n ≤ 0x7E) || 0x7F ≤ n

/-- A character of a query. -/
def isQueryChar (c : Char) : Bool :=
  let n := c.toNat
  n == 0x21 || (0x24 ≤ n && n ≤ 0x3B) || n == 0x3D || (0x3F ≤ n && n ≤ 0x7E) || 0x7F ≤ n

/-- What has been seen of an authority. -/
structure Seen where
  colons : Nat
  opened : Bool
  closed : Bool
  percent : Bool
  emptyHost : Bool

/-- Nothing has been seen. -/
def Seen.start : Seen := ⟨0, false, false, false, false⟩

/-- One more character of an authority. What stands before an at sign or inside brackets does not
count for what follows. -/
def Seen.add (s : Seen) (c : Char) : Option Seen :=
  let s' := { s with emptyHost := false }
  match c with
  | ':' => if 8 ≤ s.colons then none else some { s' with colons := s.colons + 1 }
  | '[' => if s.percent || s.opened then none else some { s' with opened := true }
  | ']' =>
    if !s.opened || s.closed then none
    else some { s' with closed := true, colons := 0, percent := false }
  | '@' => some { s' with colons := 0, percent := false, emptyHost := true }
  | '%' => some { s' with percent := true }
  | c => if isAuthorityChar c then some s' else none

/-- The characters seen make an authority. -/
def Seen.isComplete (s : Seen) : Bool :=
  s.opened == s.closed && decide (s.colons ≤ 1) && !s.emptyHost && !s.percent

/-- The end of an authority. -/
def endsAuthority (c : Char) : Bool :=
  c == '/' || c == '?' || c == '#'

/-- The characters make an authority. -/
def isAuthority (cs : List Char) : Bool :=
  match cs.foldlM Seen.add Seen.start with
  | some s => !cs.isEmpty && s.isComplete
  | none => false

/-- The characters make a path with what may follow it. A fragment is not looked at. -/
def isPathAndQuery (cs : List Char) : Bool :=
  let path := cs.takeWhile fun c => c != '?' && c != '#'
  let rest := cs.dropWhile fun c => c != '?' && c != '#'
  let query := match rest with
    | '?' :: q => q.takeWhile (· != '#')
    | _ => []
  path.all isPathChar && query.all isQueryChar

/-- The scheme of an address and what follows `://`. -/
def splitScheme (cs : List Char) : Option (List Char × List Char) :=
  match cs.dropWhile isSchemeChar with
  | ':' :: '/' :: '/' :: rest => some (cs.takeWhile isSchemeChar, rest)
  | _ => none

/-- The longest address, in bytes. -/
def maxLength : Nat := 65534

/-- The longest scheme other than the two usual ones. -/
def maxSchemeLength : Nat := 64

/-- The text reads as an absolute URI. -/
def isValid (s : String) : Bool :=
  decide (s.utf8ByteSize ≤ maxLength) &&
    match splitScheme s.toList with
    | some (scheme, rest) =>
      decide (scheme.length ≤ maxSchemeLength) &&
        isAuthority (rest.takeWhile fun c => !endsAuthority c) &&
        isPathAndQuery (rest.dropWhile fun c => !endsAuthority c)
    | none => false

end DuplexStream.Address
