/-
This file shows that the expression of a plain tree evaluates to a value with that tree.

Such an expression has no names, so it is resolved without a look at the scopes. Its evaluation
only adds cells, and what has been evaluated before keeps its tree. Maps are put together in the
order of their keys, so every entry goes to the end.
-/

import Shorthand.Proofs.Alike.Basic
import Shorthand.Proofs.Literal.Reading
import Shorthand.Proofs.Literal.Unfolds
import Shorthand.Proofs.World.Ends

namespace Shorthand

/-! ### Growing heaps -/

/-- The lists and maps of a heap are the same in another one, and so is the way to write
instants. -/
structure Heap.Extends (old new : Heap) : Prop where
  lists : ∀ {index : Nat} {items}, old.lists[index]? = some items → new.lists[index]? = some items
  maps : ∀ {index : Nat} {table}, old.maps[index]? = some table → new.maps[index]? = some table
  functions : old.functions = new.functions
  surroundings : old.surroundings = new.surroundings

namespace Heap.Extends

theorem refl (heap : Heap) : heap.Extends heap := ⟨id, id, rfl, rfl⟩

theorem trans {first second third : Heap} (extension : first.Extends second)
    (further : second.Extends third) : first.Extends third :=
  ⟨further.lists ∘ extension.lists, further.maps ∘ extension.maps,
    extension.functions.trans further.functions,
    extension.surroundings.trans further.surroundings⟩

theorem newList (heap : Heap) (items : Array Value) : heap.Extends (heap.newList items).2 := by
  refine ⟨fun {index found} isCell => ?_, id, rfl, rfl⟩
  obtain ⟨bound, _⟩ := Array.getElem?_eq_some_iff.mp isCell
  rw [← isCell]
  exact Array.getElem?_push_lt bound |>.trans (Array.getElem?_eq_getElem bound).symm

theorem newMap (heap : Heap) (table : Table Value) : heap.Extends (heap.newMap table).2 := by
  refine ⟨id, fun {index found} isCell => ?_, rfl, rfl⟩
  obtain ⟨bound, _⟩ := Array.getElem?_eq_some_iff.mp isCell
  rw [← isCell]
  exact Array.getElem?_push_lt bound |>.trans (Array.getElem?_eq_getElem bound).symm

end Heap.Extends

mutual

/-- A value keeps its tree when cells are added. -/
theorem Unfolds.mono {old new : Heap} (extension : old.Extends new) {value : Value} {tree : Tree} :
    Unfolds old value tree → Unfolds new value tree
  | .undefined => .undefined
  | .null => .null
  | .boolean value => .boolean value
  | .number value => .number value
  | .string value => .string value
  | .function cell => by
    have label : old.labelOf cell = new.labelOf cell := by
      rw [Heap.labelOf, Heap.labelOf, Heap.readFunction, Heap.readFunction, extension.functions]
    rw [label]
    exact .function cell
  | .date instant => by
    rw [Heap.dateText, extension.surroundings]
    exact .date instant
  | .list isCell each => .list (extension.lists isCell) (each.mono extension)
  | .map isCell each => .map (extension.maps isCell) (each.mono extension)

theorem AllUnfold.mono {old new : Heap} (extension : old.Extends new) {values : List Value}
    {trees : List Tree} : AllUnfold old values trees → AllUnfold new values trees
  | .nil => .nil
  | .cons first rest => .cons (first.mono extension) (rest.mono extension)

theorem EntriesUnfold.mono {old new : Heap} (extension : old.Extends new)
    {entries : List (String × Value)} {trees : List (String × Tree)} :
    EntriesUnfold old entries trees → EntriesUnfold new entries trees
  | .nil => .nil
  | .cons first rest => .cons (first.mono extension) (rest.mono extension)

end

/-! ### What expressions denote -/

/-- An evaluation that begins with a heap only adds cells to it and yields something about the
heap and its value. -/
def Action.Builds {Closure α : Type} (work : Action Closure α) (heap : Heap)
    (holds : Heap → α → Prop) : Prop :=
  ∀ closures, ∃ result new, work ⟨heap, closures⟩ = (.value result, ⟨new, closures⟩) ∧
    heap.Extends new ∧ holds new result

namespace Action.Builds

variable {Closure α β : Type} {heap : Heap} {holds : Heap → α → Prop} {after : Heap → β → Prop}

theorem done {result : α} (property : holds heap result) :
    Builds (Action.done result : Action Closure α) heap holds :=
  fun _ => ⟨result, heap, rfl, .refl _, property⟩

theorem bind {work : Action Closure α} {next : α → Action Closure β}
    (builds : work.Builds heap holds)
    (continues : ∀ new result, heap.Extends new → holds new result →
      (next result).Builds new after) :
    (work >>= next).Builds heap after := by
  intro closures
  obtain ⟨result, new, runs, extension, property⟩ := builds closures
  obtain ⟨last, final, further, finalExtension, property⟩ :=
    continues new result extension property closures
  exact ⟨last, final, (Action.bind_value runs).trans further, extension.trans finalExtension,
    property⟩

theorem newList {items : Array Value} {trees : List Tree}
    (each : AllUnfold heap items.toList trees) :
    (Action.newList items : Action Closure Value).Builds heap fun new value =>
      Unfolds new value (.list trees) := by
  intro closures
  refine ⟨_, _, rfl, .newList heap items, .list ?_ (each.mono (.newList heap items))⟩
  exact Array.getElem?_push_size

theorem newMap {table : Table Value} {trees : List (String × Tree)}
    (each : EntriesUnfold heap table.entries trees) :
    (Action.newMap table : Action Closure Value).Builds heap fun new value =>
      Unfolds new value (.map trees) := by
  intro closures
  refine ⟨_, _, rfl, .newMap heap table, .map ?_ (each.mono (.newMap heap table))⟩
  exact Array.getElem?_push_size

end Action.Builds

/-! ### Keys in order -/

theorem insertEntry_last {α : Type} {key : String} {value : α} {entries : List (String × α)}
    (last : ∀ entry ∈ entries, entry.1 < key) :
    insertEntry key value entries = entries ++ [(key, value)] := by
  induction entries with
  | nil => rfl
  | cons first rest inductionHypothesis =>
    obtain ⟨other, kept⟩ := first
    obtain ⟨before, restBefore⟩ := List.forall_mem_cons.mp last
    rw [insertEntry, if_neg (String.lt_asymm before), if_neg (ne_of_gt before),
      inductionHypothesis restBefore]
    rfl

theorem EntriesUnfold.keys {heap : Heap} {entries : List (String × Value)}
    {trees : List (String × Tree)} (each : EntriesUnfold heap entries trees) :
    entries.map Prod.fst = trees.map Prod.fst :=
  match each with
  | .nil => rfl
  | .cons _ rest => congrArg (List.cons _) rest.keys

theorem keysAscending_iff {α : Type} {entries : List (String × α)} :
    KeysAscending entries ↔ (entries.map Prod.fst).Pairwise (· < ·) :=
  List.pairwise_map.symm

/-- The trees of the entries of a table stand in the order of the keys. -/
theorem EntriesUnfold.ascending {heap : Heap} {table : Table Value} {trees : List (String × Tree)}
    (each : EntriesUnfold heap table.entries trees) : KeysAscending trees := by
  rw [keysAscending_iff, ← each.keys]
  exact keysAscending_iff.mp table.ascending

theorem AllUnfold.append {heap : Heap} {values others : List Value}
    {trees further : List Tree} (each : AllUnfold heap values trees)
    (rest : AllUnfold heap others further) :
    AllUnfold heap (values ++ others) (trees ++ further) :=
  match each with
  | .nil => rest
  | .cons first each => .cons first (each.append rest)

theorem EntriesUnfold.append {heap : Heap} {entries others : List (String × Value)}
    {trees further : List (String × Tree)} (each : EntriesUnfold heap entries trees)
    (rest : EntriesUnfold heap others further) :
    EntriesUnfold heap (entries ++ others) (trees ++ further) :=
  match each with
  | .nil => rest
  | .cons first each => .cons first (each.append rest)

/-- An entry whose key comes after those of a table is put behind them. -/
theorem EntriesUnfold.insert {heap : Heap} {key : String} {value : Value} {tree : Tree}
    {table : Table Value} {before trees : List (String × Tree)}
    (each : EntriesUnfold heap table.entries before) (unfolds : Unfolds heap value tree)
    (ascending : KeysAscending (before ++ (key, tree) :: trees)) :
    EntriesUnfold heap (table.insert key value).entries (before ++ [(key, tree)]) := by
  have keysBefore : ∀ entry ∈ table.entries, entry.1 < key := by
    intro entry member
    have inKeys : entry.1 ∈ before.map Prod.fst := by
      rw [← each.keys]
      exact List.mem_map_of_mem member
    obtain ⟨other, otherMember, same⟩ := List.mem_map.mp inKeys
    rw [← same]
    exact (List.pairwise_append.mp ascending).2.2 other otherMember (key, tree) List.mem_cons_self
  have entries : (table.insert key value).entries = table.entries ++ [(key, value)] :=
    insertEntry_last keysBefore
  rw [entries]
  exact each.append (.cons unfolds .nil)

/-! ### Expressions of trees -/

/-- An expression resolves to code without names, and the code evaluates to a value with the
tree. -/
def Denotes (expr : Expr) (tree : Tree) : Prop :=
  ∃ code : Code, (∀ source, expr.resolve source = pure code) ∧
    ∀ {Closure : Type} (machine : Machine Closure) (frame : Frame) (heap : Heap),
      (code.evaluate machine frame).Builds heap fun new value => Unfolds new value tree

/-- Wherever they are evaluated, expressions build values with some trees. -/
def ItemsDenote (exprs : List Expr) (trees : List Tree) : Prop :=
  ∃ codes : List Code, (∀ source, resolveAll source exprs = pure codes) ∧
    ∀ {Closure : Type} (machine : Machine Closure) (frame : Frame) (heap : Heap),
      (evaluateAll machine frame codes).Builds heap fun new values => AllUnfold new values trees

/-- The entries are put behind those of a table whose keys all come before theirs. -/
def EntriesDenote (exprs : List (String × Expr)) (trees : List (String × Tree)) : Prop :=
  ∃ codes : List (String × Code), (∀ source, resolveEntries source exprs = pure codes) ∧
    ∀ {Closure : Type} (machine : Machine Closure) (frame : Frame) (heap : Heap)
      (table : Table Value) (before : List (String × Tree)), KeysAscending (before ++ trees) →
      EntriesUnfold heap table.entries before →
      (evaluateEntries machine frame table codes).Builds heap fun new final =>
        EntriesUnfold new final.entries (before ++ trees)

theorem denotes_literal {literal : Literal} {tree : Tree}
    (unfolds : ∀ heap, Unfolds heap (.ofLiteral literal) tree) : Denotes (.literal literal) tree :=
  ⟨.value (.ofLiteral literal), fun _ => rfl, fun _ _ heap => .done (unfolds heap)⟩

/-- A negative integer is what the sign makes of its size. -/
theorem denotes_negative {value : Int64} (notLeast : value ≠ Int64.minValue)
    (negative : value.toInt < 0) :
    Denotes (.unary .negate (.literal (.number (.integer (Int64.ofInt value.toInt.natAbs)))))
      (.number (.integer value)) := by
  refine ⟨.unary .negate (.value (.number (.integer (Int64.ofInt value.toInt.natAbs)))),
    fun _ => rfl, fun machine frame heap closures => ?_⟩
  have negated : Number.negate (.integer (Int64.ofInt value.toInt.natAbs)) = .integer value := by
    have least : Int64.minValue.toInt = -9223372036854775808 := rfl
    have greatest : Int64.maxValue.toInt = 9223372036854775807 := rfl
    have lower := Literal.minValue_lt_toInt notLeast
    have size : (Int64.ofInt value.toInt.natAbs).toInt = -value.toInt := by
      rw [Int64.toInt_ofInt_of_le (by omega) (by omega)]
      omega
    have notZero : Int64.ofInt value.toInt.natAbs ≠ 0 := by
      intro same
      rw [same] at size
      have zero : (0 : Int64).toInt = 0 := rfl
      omega
    have word : wordOf? value.toInt = some value := by
      rw [wordOf?, if_pos ⟨value.minValue_le_toInt, value.toInt_le⟩, Int64.ofInt_toInt]
    rw [Number.negate, if_neg notZero, size, Int.neg_neg, word]
  refine ⟨.number (.integer value), heap, ?_, .refl heap, .number _⟩
  have ends : Value.unaryEnds heap .negate
      (.number (.integer (Int64.ofInt value.toInt.natAbs))) = true := Value.hasText_number _
  rw [← negated]
  exact if_pos ends

theorem ItemsDenote.list {exprs : List Expr} {trees : List Tree}
    (denote : ItemsDenote exprs trees) : Denotes (.array exprs) (.list trees) := by
  obtain ⟨codes, resolves, builds⟩ := denote
  refine ⟨.array codes, fun source => ?_, fun machine frame heap => ?_⟩
  · rw [Expr.resolve, resolves, pure_bind]
  · rw [Code.evaluate]
    exact (builds machine frame heap).bind fun _ values _ each => .newList (by simpa using each)

theorem EntriesDenote.map {exprs : List (String × Expr)} {trees : List (String × Tree)}
    (denote : EntriesDenote exprs trees) (ascending : KeysAscending trees) :
    Denotes (.object exprs) (.map trees) := by
  obtain ⟨codes, resolves, builds⟩ := denote
  refine ⟨.object codes, fun source => ?_, fun machine frame heap => ?_⟩
  · rw [Expr.resolve, resolves, pure_bind]
  · rw [Code.evaluate]
    exact (builds machine frame heap Table.empty [] ascending .nil).bind
      fun _ _ _ each => .newMap each

theorem Denotes.item {expr : Expr} {tree : Tree} {exprs : List Expr} {trees : List Tree}
    (denotes : Denotes expr tree) (denote : ItemsDenote exprs trees) :
    ItemsDenote (expr :: exprs) (tree :: trees) := by
  obtain ⟨code, resolves, builds⟩ := denotes
  obtain ⟨codes, resolveRest, buildRest⟩ := denote
  refine ⟨code :: codes, fun source => ?_, fun machine frame heap => ?_⟩
  · rw [resolveAll, resolves, pure_bind, resolveRest, pure_bind]
  · rw [evaluateAll]
    refine (builds machine frame heap).bind fun middle value _ unfolds => ?_
    refine (buildRest machine frame middle).bind fun new values extension each => ?_
    exact .done (.cons (unfolds.mono extension) each)

theorem Denotes.entry {key : String} {expr : Expr} {tree : Tree} {exprs : List (String × Expr)}
    {trees : List (String × Tree)} (denotes : Denotes expr tree)
    (denote : EntriesDenote exprs trees) :
    EntriesDenote ((key, expr) :: exprs) ((key, tree) :: trees) := by
  obtain ⟨code, resolves, builds⟩ := denotes
  obtain ⟨codes, resolveRest, buildRest⟩ := denote
  refine ⟨(key, code) :: codes, fun source => ?_,
    fun machine frame heap table before ascending each => ?_⟩
  · rw [resolveEntries, resolves, pure_bind, resolveRest, pure_bind]
  · rw [evaluateEntries]
    refine (builds machine frame heap).bind fun middle value extension unfolds => ?_
    have inserted := (each.mono extension).insert unfolds ascending
    have shifted : before ++ (key, tree) :: trees = before ++ [(key, tree)] ++ trees := by simp
    rw [shifted] at ascending ⊢
    exact buildRest machine frame middle _ _ ascending inserted

mutual

/-- The expression of a plain tree that some value has denotes that tree. -/
theorem Unfolds.denotes {heap : Heap} {value : Value} {tree : Tree} :
    Unfolds heap value tree → tree.IsPlain → Denotes tree.expr tree
  | .undefined, _ => denotes_literal fun _ => .undefined
  | .null, _ => denotes_literal fun _ => .null
  | .boolean value, _ => denotes_literal fun _ => .boolean value
  | .number (.integer value), isPlain => by
    rw [Tree.expr]
    split
    · rename_i negative
      exact denotes_negative isPlain negative
    · exact denotes_literal fun _ => .number _
  | .string value, _ => denotes_literal fun _ => .string value
  | .number (.float _), isPlain | .function _, isPlain | .date _, isPlain => False.elim isPlain
  | .list _ each, isPlain => (each.denote isPlain).list
  | .map _ each, isPlain => (each.denote isPlain).map each.ascending

theorem AllUnfold.denote {heap : Heap} {values : List Value} {trees : List Tree} :
    AllUnfold heap values trees → AllPlain trees → ItemsDenote (itemExprs trees) trees
  | .nil, _ => ⟨[], fun _ => rfl, fun _ _ _ => .done .nil⟩
  | .cons first rest, isPlain => (first.denotes isPlain.1).item (rest.denote isPlain.2)

theorem EntriesUnfold.denote {heap : Heap} {entries : List (String × Value)}
    {trees : List (String × Tree)} :
    EntriesUnfold heap entries trees → EntriesPlain trees → EntriesDenote (entryExprs trees) trees
  | .nil, _ => ⟨[], fun _ => rfl, fun _ _ _ _ before _ each => .done (by simpa using each)⟩
  | .cons first rest, isPlain => (first.denotes isPlain.1).entry (rest.denote isPlain.2)

end

end Shorthand
