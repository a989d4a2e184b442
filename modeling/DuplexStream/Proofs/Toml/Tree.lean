import DuplexStream.Toml.Node
import Mathlib.Data.List.Basic

/-!
# The tree of a document grows

A statement adds to the tree of a document and takes nothing away. So whatever a line of a document
names has its place in the tree in the end, if the document has one.
-/

namespace DuplexStream.Toml

namespace Entries

variable {es es' : Entries} {key key' : String} {v : Node}

/-- The keys of a table. -/
def names (es : Entries) : List String :=
  es.map Prod.fst

theorem get?_nil : get? [] key = none := rfl

theorem get?_cons (e : String × Node) (es : Entries) (key : String) :
    get? (e :: es) key = if e.1 = key then some e.2 else es.get? key := by
  by_cases same : e.1 = key <;> simp [get?, same]

theorem mem_of_get? (there : es.get? key = some v) : (key, v) ∈ es := by
  induction es with
  | nil => simp [get?_nil] at there
  | cons e es ih =>
      rw [get?_cons] at there
      split at there
      · rename_i same
        obtain rfl : e.2 = v := Option.some.inj there
        simp [← same]
      · exact List.mem_cons_of_mem _ (ih there)

theorem get?_eq_none_iff : es.get? key = none ↔ key ∉ es.names := by
  induction es with
  | nil => simp [get?_nil, names]
  | cons e es ih =>
      rw [get?_cons]
      split
      · simp [names, *]
      · rename_i other
        rw [ih]
        simp [names, Ne.symm other]

theorem get?_append : get? (es ++ es') key = (es.get? key).or (es'.get? key) := by
  induction es with
  | nil => rfl
  | cons e es ih =>
      rw [List.cons_append, get?_cons, get?_cons, ih]
      split <;> rfl

theorem get?_put (es : Entries) (key key' : String) (v : Node) :
    (es.put key v).get? key' = if key = key' then some v else es.get? key' := by
  induction es with
  | nil => simp [put, get?_cons, get?_nil]
  | cons e es ih =>
      by_cases here : e.1 = key
      · simp only [put, here, beq_self_eq_true, if_true, get?_cons]
        split <;> rfl
      · have there : (e.1 == key) = false := by simpa using here
        simp only [put, there, Bool.false_eq_true, if_false, get?_cons, ih]
        by_cases same : e.1 = key'
        · simp [same, show key ≠ key' from fun h => here (same.trans h.symm)]
        · simp [same]

/-- What was added last. -/
theorem get?_concat (fresh : es.get? key = none) (v : Node) :
    get? (es ++ [(key, v)]) key = some v := by
  rw [get?_append, fresh, Option.none_or, get?_cons, if_pos rfl]

theorem put_concat (fresh : es.get? key = none) (v v' : Node) :
    put key v' (es ++ [(key, v)]) = es ++ [(key, v')] := by
  induction es with
  | nil => simp [put]
  | cons e es ih =>
      rw [get?_cons] at fresh
      split at fresh
      · cases fresh
      · rename_i other
        simp [put, other, ih fresh]

end Entries

/-- There is something at a path in a table. -/
def Holds : List String → Entries → Prop
  | [], _ => True
  | key :: path, es =>
    match es.get? key with
    | none => False
    | some (.table _ inner) => Holds path inner
    | some (.tables elements) => path = [] ∨ ∃ e ∈ elements, Holds path e
    | some _ => path = []

/-- There is something at a path below a node. -/
def Beneath (path : List String) : Node → Prop
  | .table _ inner => Holds path inner
  | .tables elements => path = [] ∨ ∃ e ∈ elements, Holds path e
  | _ => path = []

/-- Whatever one table holds the other one holds too. -/
def Grows (es es' : Entries) : Prop :=
  ∀ path, Holds path es → Holds path es'

section Growth

variable {es es' : Entries} {key : String} {value v v' : Node} {path : List String}

theorem holds_cons_iff : Holds (key :: path) es ↔ ∃ v, es.get? key = some v ∧ Beneath path v := by
  rw [Holds]
  cases es.get? key with
  | none => simp
  | some v => cases v <;> simp [Beneath]

theorem beneath_nil (v : Node) : Beneath [] v := by
  cases v <;> simp [Beneath, Holds]

theorem Grows.refl (es : Entries) : Grows es es :=
  fun _ => id

theorem Grows.trans {es'' : Entries} (first : Grows es es') (second : Grows es' es'') :
    Grows es es'' :=
  fun path held => second path (first path held)

theorem grows_append (es more : Entries) : Grows es (es ++ more) := by
  intro path held
  cases path with
  | nil => trivial
  | cons key path =>
      obtain ⟨v, there, below⟩ := holds_cons_iff.1 held
      exact holds_cons_iff.2 ⟨v, by rw [Entries.get?_append, there, Option.some_or], below⟩

theorem grows_put (there : es.get? key = some v)
    (below : ∀ path, Beneath path v → Beneath path v') :
    Grows es (es.put key v') := by
  intro path held
  cases path with
  | nil => trivial
  | cons key' path =>
      obtain ⟨w, there', under⟩ := holds_cons_iff.1 held
      refine holds_cons_iff.2 ?_
      rw [Entries.get?_put]
      split
      · rename_i same
        subst same
        obtain rfl : v = w := Option.some.inj (there.symm.trans there')
        exact ⟨v', rfl, below path under⟩
      · exact ⟨w, there', under⟩

/-- What is new at a key. -/
theorem holds_put (below : Beneath path v) : Holds (key :: path) (es.put key v) :=
  holds_cons_iff.2 ⟨v, by rw [Entries.get?_put, if_pos rfl], below⟩

theorem holds_append (fresh : es.get? key = none) (below : Beneath path v) :
    Holds (key :: path) (es ++ [(key, v)]) :=
  holds_cons_iff.2 ⟨v, Entries.get?_concat fresh v, below⟩

/-- A change of a table adds something at a path and takes nothing away. -/
def Adds (path : List String) (es es' : Entries) : Prop :=
  Grows es es' ∧ Holds path es'

theorem beneath_changeLast {f : Entries → Option Entries} {elements elements' : List Entries}
    (adds : ∀ e e', f e = some e' → Adds path e e')
    (changed : changeLast f elements = some elements') :
    (∀ q, (∃ e ∈ elements, Holds q e) → ∃ e ∈ elements', Holds q e) ∧
      ∃ e ∈ elements', Holds path e := by
  fun_induction changeLast f elements generalizing elements' with
  | case1 => simp at changed
  | case2 e =>
      obtain ⟨e', given, rfl⟩ := Option.map_eq_some_iff.1 changed
      obtain ⟨grows, held⟩ := adds e e' given
      simp only [List.mem_singleton, exists_eq_left]
      exact ⟨grows, held⟩
  | case3 a b rest ih =>
      obtain ⟨others, given, rfl⟩ := Option.map_eq_some_iff.1 changed
      obtain ⟨grows, held⟩ := ih given
      refine ⟨fun q ⟨e, mem, held⟩ => ?_, ?_⟩
      · rcases List.mem_cons.1 mem with rfl | mem
        · exact ⟨e, List.mem_cons_self, held⟩
        · obtain ⟨e', mem', held'⟩ := grows q ⟨e, mem, held⟩
          exact ⟨e', List.mem_cons_of_mem _ mem', held'⟩
      · obtain ⟨e, mem, held⟩ := held
        exact ⟨e, List.mem_cons_of_mem _ mem, held⟩

/-- A change inside a table that stands at a key. -/
theorem adds_table {kind kind' : TableKind} {inner inner' : Entries}
    (there : es.get? key = some (.table kind inner)) (adds : Adds path inner inner') :
    Adds (key :: path) es (es.put key (.table kind' inner')) :=
  ⟨grows_put there adds.1, holds_put adds.2⟩

/-- A change inside the last of the tables that stand at a key. -/
theorem adds_tables {f : Entries → Option Entries} {elements elements' : List Entries}
    (there : es.get? key = some (.tables elements))
    (adds : ∀ e e', f e = some e' → Adds path e e')
    (changed : changeLast f elements = some elements') :
    Adds (key :: path) es (es.put key (.tables elements')) := by
  obtain ⟨grows, held⟩ := beneath_changeLast adds changed
  exact ⟨grows_put there fun q below => below.imp_right (grows q), holds_put (.inr held)⟩

theorem adds_addAt (added : addAt key value path es = some es') :
    Adds (path ++ [key]) es es' := by
  induction path generalizing es es' with
  | nil =>
      simp only [addAt] at added
      split at added
      · cases added
      · rename_i fresh
        obtain rfl := Option.some.inj added
        exact ⟨grows_append es _, holds_append fresh (beneath_nil value)⟩
  | cons p path ih =>
      simp only [addAt] at added
      split at added
      · rename_i fresh
        obtain ⟨inner, given, rfl⟩ := Option.map_eq_some_iff.1 added
        exact ⟨grows_append es _, holds_append fresh (ih given).2⟩
      · rename_i there
        obtain ⟨inner, given, rfl⟩ := Option.map_eq_some_iff.1 added
        exact adds_table there (ih given)
      · rename_i there
        split at added
        · cases added
        · obtain ⟨inner, given, rfl⟩ := Option.map_eq_some_iff.1 added
          exact adds_table there (ih given)
      · rename_i there
        split at added
        · cases added
        · obtain ⟨elements, given, rfl⟩ := Option.map_eq_some_iff.1 added
          exact adds_tables there (fun _ _ => ih) given
      · cases added

theorem adds_changeAt {change : Entries → String → Option Entries} {tail : List String}
    (adds : ∀ es key es', change es key = some es' → Adds (key :: tail) es es')
    (changed : changeAt change path es = some es') : Adds (path ++ tail) es es' := by
  induction path generalizing es es' with
  | nil => cases changed
  | cons p path ih =>
      cases path with
      | nil => exact adds es p es' changed
      | cons q path =>
          simp only [changeAt] at changed
          split at changed
          · rename_i fresh
            obtain ⟨inner, given, rfl⟩ := Option.map_eq_some_iff.1 changed
            exact ⟨grows_append es _, holds_append fresh (ih given).2⟩
          · cases changed
          · rename_i there
            obtain ⟨inner, given, rfl⟩ := Option.map_eq_some_iff.1 changed
            exact adds_table there (ih given)
          · rename_i there
            obtain ⟨elements, given, rfl⟩ := Option.map_eq_some_iff.1 changed
            exact adds_tables there (fun _ _ => ih) given
          · cases changed

theorem adds_openTable (opened : openTable es key = some es') : Adds [key] es es' := by
  simp only [openTable] at opened
  split at opened
  · rename_i fresh
    obtain rfl := Option.some.inj opened
    exact ⟨grows_append es _, holds_append fresh trivial⟩
  · rename_i there
    obtain rfl := Option.some.inj opened
    exact ⟨grows_put there fun _ => id, holds_put trivial⟩
  · cases opened

theorem adds_openElement (opened : openElement es key = some es') : Adds [key] es es' := by
  simp only [openElement] at opened
  split at opened
  · rename_i fresh
    obtain rfl := Option.some.inj opened
    exact ⟨grows_append es _, holds_append fresh (beneath_nil _)⟩
  · rename_i there
    obtain rfl := Option.some.inj opened
    refine ⟨grows_put there fun q below => below.imp_right ?_, holds_put (beneath_nil _)⟩
    exact fun ⟨e, mem, held⟩ => ⟨e, List.mem_append_left _ mem, held⟩
  · cases opened

theorem adds_addInside {table : String} (added : addInside path key value es table = some es') :
    Adds (table :: (path ++ [key])) es es' := by
  simp only [addInside] at added
  split at added
  · rename_i there
    obtain ⟨inner, given, rfl⟩ := Option.map_eq_some_iff.1 added
    exact adds_table there (adds_addAt given)
  · rename_i there
    obtain ⟨elements, given, rfl⟩ := Option.map_eq_some_iff.1 added
    exact adds_tables there (fun _ _ => adds_addAt) given
  · cases added

end Growth

/-- Where a statement puts something, given the path of the present header. -/
def Statement.place (here : List String) : Statement → List String
  | .header path => path
  | .element path => path
  | .assign path key _ => here ++ (path ++ [key])

/-- The header under which the next statement stands. -/
def Statement.under (here : List String) : Statement → List String
  | .header path => path
  | .element path => path
  | .assign .. => here

/-- All places where statements put something. -/
def places (here : List String) : List Statement → List (List String)
  | [] => []
  | s :: ss => s.place here :: places (s.under here) ss

section Drafts

variable {d d' : Draft} {s : Statement} {ss : List Statement}

theorem adds_draft (added : d.add s = some d') :
    Adds (s.place d.here) d.entries d'.entries ∧ d'.here = s.under d.here := by
  cases s with
  | header path =>
      obtain ⟨es, given, rfl⟩ := Option.map_eq_some_iff.1 added
      have adds := adds_changeAt (fun _ _ _ => adds_openTable) given
      rw [List.append_nil] at adds
      exact ⟨adds, rfl⟩
  | element path =>
      obtain ⟨es, given, rfl⟩ := Option.map_eq_some_iff.1 added
      have adds := adds_changeAt (fun _ _ _ => adds_openElement) given
      rw [List.append_nil] at adds
      exact ⟨adds, rfl⟩
  | assign path key value =>
      simp only [Draft.add] at added
      split at added
      · rename_i top
        obtain ⟨es, given, rfl⟩ := Option.map_eq_some_iff.1 added
        rw [Statement.place, top]
        exact ⟨adds_addAt given, rfl⟩
      · obtain ⟨es, given, rfl⟩ := Option.map_eq_some_iff.1 added
        exact ⟨adds_changeAt (fun _ _ _ => adds_addInside) given, rfl⟩

theorem holds_of_places (added : ss.foldlM Draft.add d = some d') :
    Grows d.entries d'.entries ∧ ∀ place ∈ places d.here ss, Holds place d'.entries := by
  induction ss generalizing d with
  | nil =>
      obtain rfl : d = d' := by simpa using added
      exact ⟨.refl _, by simp [places]⟩
  | cons s ss ih =>
      rw [List.foldlM_cons] at added
      obtain ⟨next, first, rest⟩ := Option.bind_eq_some_iff.1 added
      obtain ⟨⟨grows, held⟩, under⟩ := adds_draft first
      obtain ⟨grows', others⟩ := ih rest
      refine ⟨grows.trans grows', ?_⟩
      rw [places, List.forall_mem_cons]
      exact ⟨grows' _ held, under ▸ others⟩

/-- Whatever a statement names is in the tree. -/
theorem holds_of_entriesOf {es : Entries} (made : entriesOf ss = some es) :
    ∀ place ∈ places [] ss, Holds place es := by
  obtain ⟨d, added, rfl⟩ := Option.map_eq_some_iff.1 made
  exact (holds_of_places added).2

end Drafts

end DuplexStream.Toml
