import DuplexStream.Proofs.Toml.Lines
import DuplexStream.Proofs.Toml.Tree

/-!
# Documents of sections

A document of sections with different names, each with different keys, has the tree that says what
the sections say, in the same order.
-/

namespace DuplexStream.Toml

/-- A table with its header, as it is written. -/
structure Section where
  name : BareName
  assignments : List (BareName × Literal)

namespace Section

def lines (s : Section) : List Line :=
  .header s.name :: s.assignments.map fun (key, l) => .assign key l

/-- The keys that are given. -/
def keys (s : Section) : List String :=
  s.assignments.map (·.1.1)

end Section

/-- A document as it is written, section by section. -/
abbrev Document := List Section

namespace Document

variable (doc : Document)

def lines : List Line :=
  doc.flatMap Section.lines

/-- The text of a document. -/
def render : String :=
  textOf doc.lines

/-- The names of the sections. -/
def names : List String :=
  doc.map (·.name.1)

/-- What is given at a key of a section. -/
def given (heading key : String) : Option Literal :=
  (doc.find? (·.name.1 == heading)).bind fun s =>
    (s.assignments.find? (·.1.1 == key)).map Prod.snd

/-- No section comes twice, and no key of a section does. -/
structure Distinct : Prop where
  names : doc.names.Nodup
  keys : ∀ s ∈ doc, s.keys.Nodup

/-- Every literal of the document has a value. -/
def Valued : Prop :=
  ∀ s ∈ doc, ∀ a ∈ s.assignments, a.2.node?.isSome

end Document

section Given

variable {doc : Document} {name key : String} {l : Literal}

/-- Among things of different names, the first one with a name is the only one. -/
theorem find?_of_mem {α : Type} {f : α → String} {as : List α} {a : α} (distinct : (as.map f).Nodup)
    (mem : a ∈ as) : as.find? (f · == f a) = some a := by
  induction as with
  | nil => cases mem
  | cons a' as ih =>
      obtain ⟨new, others⟩ := List.nodup_cons.1 distinct
      rcases List.mem_cons.1 mem with rfl | mem
      · simp
      · have differs : (f a' == f a) = false :=
          beq_eq_false_iff_ne.2 fun same => new (same ▸ List.mem_map_of_mem mem)
        rw [List.find?_cons, differs]
        exact ih others mem

/-- What is written in a section is given. -/
theorem given_of_mem (distinct : doc.Distinct) {s : Section} (mem : s ∈ doc)
    {a : BareName × Literal} (inside : a ∈ s.assignments) :
    doc.given s.name.1 a.1.1 = some a.2 := by
  have outer : doc.find? (·.name.1 == s.name.1) = some s := find?_of_mem distinct.names mem
  have inner : s.assignments.find? (·.1.1 == a.1.1) = some a :=
    find?_of_mem (distinct.keys s mem) inside
  rw [Document.given, outer, Option.bind_some, inner, Option.map_some]

/-- What is given is written in a section. -/
theorem mem_of_given (given : doc.given name key = some l) :
    ∃ s ∈ doc, s.name.1 = name ∧ ∃ a ∈ s.assignments, a.1.1 = key ∧ a.2 = l := by
  obtain ⟨s, found, given⟩ := Option.bind_eq_some_iff.1 given
  obtain ⟨a, found', rfl⟩ := Option.map_eq_some_iff.1 given
  exact ⟨s, List.mem_of_find?_eq_some found, by simpa using List.find?_some found,
    a, List.mem_of_find?_eq_some found', by simpa using List.find?_some found', rfl⟩

end Given

section Trees

variable {doc : Document} {s : Section} {ls : List Line} {es : Entries} {here : List String}

/-- The value of a literal that has one. -/
def Literal.node (l : Literal) : Node :=
  l.node?.getD .datetime

/-- What a line says, if its value is one. -/
def Line.statement : Line → Statement
  | header name => .header [name.1]
  | assign key value => .assign [] key.1 value.node

/-- The table of a section. -/
def Section.entries (s : Section) : Entries :=
  s.assignments.map fun (key, l) => (key.1, l.node)

/-- The tree of a document. -/
def Document.entries (doc : Document) : Entries :=
  doc.map fun s => (s.name.1, .table .header s.entries)

theorem names_section (s : Section) : s.entries.names = s.keys := by
  simp [Section.entries, Entries.names, Section.keys]

theorem names_entries (doc : Document) : doc.entries.names = doc.names := by
  simp [Document.entries, Entries.names, Document.names]

theorem get?_section (s : Section) (key : String) :
    s.entries.get? key = (s.assignments.find? (·.1.1 == key)).map (·.2.node) := by
  rw [Section.entries, Entries.get?, List.find?_map, Option.map_map]
  rfl

theorem get?_entries (doc : Document) (name : String) :
    doc.entries.get? name =
      (doc.find? (·.name.1 == name)).map fun s => .table .header s.entries := by
  rw [Document.entries, Entries.get?, List.find?_map, Option.map_map]
  rfl

theorem mapM_statement? (valued : ∀ l ∈ ls, l.statement? = some l.statement) :
    ls.mapM Line.statement? = some (ls.map Line.statement) := by
  induction ls with
  | nil => rfl
  | cons l ls ih =>
      obtain ⟨first, others⟩ := List.forall_mem_cons.1 valued
      rw [List.mapM_cons, first, ih others]
      rfl

theorem mapM_statement?_eq_none {l : Line} (mem : l ∈ ls) (unread : l.statement? = none) :
    ls.mapM Line.statement? = none := by
  induction ls with
  | nil => cases mem
  | cons l' ls ih =>
      rw [List.mapM_cons]
      rcases List.mem_cons.1 mem with rfl | mem
      · rw [unread]
        rfl
      · rw [ih mem]
        cases l'.statement? <;> rfl

/-- A key that is new to the table of the present header is added to it. -/
theorem add_assign {name key : String} {inner : Entries} (fresh : es.get? name = none)
    (new : inner.get? key = none) (v : Node) :
    Draft.add ⟨es ++ [(name, .table .header inner)], [name]⟩ (.assign [] key v) =
      some ⟨es ++ [(name, .table .header (inner ++ [(key, v)]))], [name]⟩ := by
  simp only [Draft.add, changeAt, addInside, Entries.get?_concat fresh, addAt, new,
    Option.map_some, Entries.put_concat fresh]

theorem add_header {name : String} (fresh : es.get? name = none) :
    Draft.add ⟨es, here⟩ (.header [name]) =
      some ⟨es ++ [(name, .table .header [])], [name]⟩ := by
  simp only [Draft.add, changeAt, openTable, fresh, Option.map_some]

theorem foldlM_assignments {name : String} (fresh : es.get? name = none)
    (assignments : List (BareName × Literal)) (inner : Entries)
    (distinct : (inner.names ++ assignments.map (·.1.1)).Nodup) :
    (assignments.map fun (key, l) => (Line.assign key l).statement).foldlM Draft.add
        ⟨es ++ [(name, .table .header inner)], [name]⟩ =
      some ⟨es ++ [(name, .table .header
        (inner ++ assignments.map fun (key, l) => (key.1, l.node)))], [name]⟩ := by
  induction assignments generalizing inner with
  | nil => simp
  | cons a assignments ih =>
      obtain ⟨key, l⟩ := a
      have new : inner.get? key.1 = none :=
        Entries.get?_eq_none_iff.2 fun mem =>
          (List.nodup_append.1 distinct).2.2 _ mem _ List.mem_cons_self rfl
      have rest := ih (inner ++ [(key.1, l.node)]) (by simpa [Entries.names] using distinct)
      have added : Draft.add ⟨es ++ [(name, .table .header inner)], [name]⟩
          (Line.assign key l).statement =
            some ⟨es ++ [(name, .table .header (inner ++ [(key.1, l.node)]))], [name]⟩ :=
        add_assign fresh new l.node
      rw [List.map_cons, List.foldlM_cons, added]
      simpa using rest

/-- A section whose name is new is added as a whole. -/
theorem foldlM_section (fresh : es.get? s.name.1 = none) (distinct : s.keys.Nodup) :
    (s.lines.map Line.statement).foldlM Draft.add ⟨es, here⟩ =
      some ⟨es ++ [(s.name.1, .table .header s.entries)], [s.name.1]⟩ := by
  rw [Section.lines, List.map_cons, List.foldlM_cons, Line.statement, add_header fresh,
    List.map_map]
  exact foldlM_assignments fresh s.assignments [] distinct

theorem foldlM_sections (es : Entries) (here : List String)
    (distinct : (es.names ++ doc.names).Nodup) (keys : ∀ s ∈ doc, s.keys.Nodup) :
    ((doc.lines.map Line.statement).foldlM Draft.add ⟨es, here⟩).map Draft.entries =
      some (es ++ doc.entries) := by
  induction doc generalizing es here with
  | nil => simp [Document.lines, Document.entries]
  | cons s doc ih =>
      have fresh : es.get? s.name.1 = none :=
        Entries.get?_eq_none_iff.2 fun mem =>
          (List.nodup_append.1 distinct).2.2 _ mem _ List.mem_cons_self rfl
      obtain ⟨first, others⟩ := List.forall_mem_cons.1 keys
      have rest := ih (es ++ [(s.name.1, .table .header s.entries)]) [s.name.1]
        (by simpa [Entries.names, Document.names] using distinct) others
      rw [Document.lines, List.flatMap_cons, List.map_append, List.foldlM_append,
        foldlM_section fresh first]
      exact rest.trans (by rw [List.append_assoc]; rfl)

theorem mem_lines {l : Line} : l ∈ doc.lines ↔ ∃ s ∈ doc, l = .header s.name ∨
    ∃ a ∈ s.assignments, Line.assign a.1 a.2 = l := by
  simp only [Document.lines, List.mem_flatMap, Section.lines, List.mem_cons, List.mem_map]

/-- The lines of a document whose literals have values. -/
theorem readStatements_render (valued : doc.Valued) :
    readStatements (dropMark doc.render.toList) = some (doc.lines.map Line.statement) := by
  rw [Document.render, readStatements_textOf]
  refine mapM_statement? fun l mem => ?_
  obtain ⟨s, inside, rfl | ⟨a, inside', rfl⟩⟩ := mem_lines.1 mem
  · rfl
  · obtain ⟨v, value⟩ := Option.isSome_iff_exists.1 (valued s inside a inside')
    simp only [Line.statement?, Line.statement, Literal.node, value]
    rfl

/-- The tree of a document of sections. -/
theorem parse?_render (distinct : doc.Distinct) (valued : doc.Valued) :
    parse? doc.render = some doc.entries := by
  rw [parse?, readStatements_render valued]
  exact foldlM_sections [] [] distinct.names distinct.keys

/-- A document with a literal that has no value has no tree. -/
theorem parse?_render_eq_none (unvalued : ¬ doc.Valued) : parse? doc.render = none := by
  simp only [Document.Valued, not_forall] at unvalued
  obtain ⟨s, mem, a, mem', noValue⟩ := unvalued
  have unread : (Line.assign a.1 a.2).statement? = none := by
    rw [Line.statement?, Option.not_isSome_iff_eq_none.1 noValue, Option.map_none]
  rw [parse?, Document.render, readStatements_textOf,
    mapM_statement?_eq_none (mem_lines.2 ⟨s, mem, .inr ⟨a, mem', rfl⟩⟩) unread]

/-- Where a section puts something. -/
def Section.places (s : Section) : List (List String) :=
  [s.name.1] :: s.assignments.map fun (key, _) => [s.name.1, key.1]

theorem places_assignments (name : String) (assignments : List (BareName × Literal))
    (rest : List Statement) :
    Toml.places [name] ((assignments.map fun (key, l) => (Line.assign key l).statement) ++ rest) =
      (assignments.map fun (key, _) => [name, key.1]) ++ Toml.places [name] rest := by
  induction assignments with
  | nil => rfl
  | cons a assignments ih => exact congrArg (_ :: ·) ih

theorem places_lines (doc : Document) (here : List String) :
    Toml.places here (doc.lines.map Line.statement) = doc.flatMap Section.places := by
  induction doc generalizing here with
  | nil => rfl
  | cons s doc ih =>
      rw [Document.lines, List.flatMap_cons, List.map_append, Section.lines, List.map_cons,
        List.map_map, List.cons_append, Toml.places]
      have inside := places_assignments s.name.1 s.assignments
        ((Document.lines doc).map Line.statement)
      rw [ih] at inside
      exact congrArg (_ :: ·) inside

end Trees

end DuplexStream.Toml
