import DuplexStream.Binary64.Decimal

/-!
# The tree of a document

A document is a table of keys. A table remembers how it came about, since that decides what may be
added to it: a header makes a table once; a table on the way to a header may still get one; a table
made by a dotted key takes further dotted keys and nothing else; an inline table is complete.
-/

namespace DuplexStream.Toml

/-- How a table came about. -/
inductive TableKind where
  | header
  | passed
  | dotted
  | inline
  deriving DecidableEq

/-- What stands at a key. -/
inductive Node where
  | text (s : String)
  | integer (n : Int)
  | real (x : Binary64)
  | boolean (b : Bool)
  | datetime
  | array (items : List Node)
  | table (kind : TableKind) (entries : List (String × Node))
  | tables (elements : List (List (String × Node)))

/-- The keys of a table in the order in which they came. -/
abbrev Entries := List (String × Node)

namespace Entries

/-- What stands at a key. -/
def get? (es : Entries) (key : String) : Option Node :=
  (es.find? fun e => e.1 == key).map Prod.snd

/-- Puts something else at a key, or adds the key at the end. -/
def put (key : String) (node : Node) : Entries → Entries
  | [] => [(key, node)]
  | e :: es => if e.1 == key then (key, node) :: es else e :: put key node es

end Entries

/-- Changes the last element of a list, if there is one. -/
def changeLast {α : Type} (f : α → Option α) : List α → Option (List α)
  | [] => none
  | [a] => (f a).map fun b => [b]
  | a :: b :: rest => (changeLast f (b :: rest)).map (a :: ·)

/-- Adds a value at a dotted key. The tables on the way are made if they are missing; the last one
has to come from dotted keys itself, unless the key has no dots. -/
def addAt (key : String) (value : Node) : List String → Entries → Option Entries
  | [], es =>
    match es.get? key with
    | some _ => none
    | none => some (es ++ [(key, value)])
  | p :: path, es =>
    match es.get? p with
    | none => (addAt key value path []).map fun inner => es ++ [(p, .table .dotted inner)]
    | some (.table .dotted inner) =>
      (addAt key value path inner).map fun inner' => es.put p (.table .dotted inner')
    | some (.table .passed inner) =>
      if path.isEmpty then none
      else (addAt key value path inner).map fun inner' => es.put p (.table .passed inner')
    | some (.tables elements) =>
      if path.isEmpty then none
      else (changeLast (addAt key value path) elements).map fun elements' =>
        es.put p (.tables elements')
    | some _ => none

/-- Changes the table at a path that headers have made, going into the latest element of an array of
tables. The tables on the way are made by passing through if they are missing. -/
def changeAt (change : Entries → String → Option Entries) : List String → Entries → Option Entries
  | [], _ => none
  | [key], es => change es key
  | p :: q :: path, es =>
    match es.get? p with
    | none => (changeAt change (q :: path) []).map fun inner => es ++ [(p, .table .passed inner)]
    | some (.table .inline _) => none
    | some (.table kind inner) =>
      (changeAt change (q :: path) inner).map fun inner' => es.put p (.table kind inner')
    | some (.tables elements) =>
      (changeLast (changeAt change (q :: path)) elements).map fun elements' =>
        es.put p (.tables elements')
    | some _ => none

/-- Makes the table of a header. -/
def openTable (es : Entries) (key : String) : Option Entries :=
  match es.get? key with
  | none => some (es ++ [(key, .table .header [])])
  | some (.table .passed inner) => some (es.put key (.table .header inner))
  | some _ => none

/-- Makes the next element of an array of tables. -/
def openElement (es : Entries) (key : String) : Option Entries :=
  match es.get? key with
  | none => some (es ++ [(key, .tables [[]])])
  | some (.tables elements) => some (es.put key (.tables (elements ++ [[]])))
  | some _ => none

/-- Adds a value to the table of the present header. -/
def addInside (path : List String) (key : String) (value : Node) (es : Entries) (table : String) :
    Option Entries :=
  match es.get? table with
  | some (.table kind inner) =>
    (addAt key value path inner).map fun inner' => es.put table (.table kind inner')
  | some (.tables elements) =>
    (changeLast (addAt key value path) elements).map fun elements' =>
      es.put table (.tables elements')
  | _ => none

/-- One line of a document that says something. -/
inductive Statement where
  | header (path : List String)
  | element (path : List String)
  | assign (path : List String) (key : String) (value : Node)

/-- A document so far: its tree, and the path of the present header. -/
structure Draft where
  entries : Entries
  here : List String

/-- Nothing yet. -/
def Draft.empty : Draft := ⟨[], []⟩

/-- A document with one more statement. -/
def Draft.add (d : Draft) : Statement → Option Draft
  | .header path => (changeAt openTable path d.entries).map fun es => ⟨es, path⟩
  | .element path => (changeAt openElement path d.entries).map fun es => ⟨es, path⟩
  | .assign path key value =>
    match d.here with
    | [] => (addAt key value path d.entries).map fun es => { d with entries := es }
    | here =>
      (changeAt (addInside path key value) here d.entries).map fun es => { d with entries := es }

/-- The tree of a list of statements. -/
def entriesOf (statements : List Statement) : Option Entries :=
  (statements.foldlM Draft.add Draft.empty).map Draft.entries

/-- The table of an inline table's pairs. -/
def inlineTable : List (List String × String × Node) → Entries → Option Entries
  | [], es => some es
  | (path, key, value) :: rest, es =>
    match addAt key value path es with
    | some es' => inlineTable rest es'
    | none => none

end DuplexStream.Toml
