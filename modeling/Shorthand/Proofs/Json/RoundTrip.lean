/-
This file shows that the document of a value is read as the value again.

The document of a value shows its tree, with `null` for what is missing and with text for functions.
Building a document makes new lists and maps with the tree that it shows. How documents are written
and read is left to a library, and all that is asked of it is that it reads what it has written.
-/

import Shorthand.Json.Library
import Shorthand.Proofs.Json.Document
import Shorthand.Proofs.World.Ends

namespace Shorthand

/-! ### Trees in documents -/

mutual

/-- A tree of integers, strings and the like, lists and maps, and of functions. -/
def Tree.IsShown : Tree → Prop
  | .number (.float _) | .date _ _ => False
  | .list items => AllShown items
  | .map entries => EntriesShown entries
  | _ => True

/-- All of some trees can be shown. -/
def AllShown : List Tree → Prop
  | [] => True
  | tree :: rest => tree.IsShown ∧ AllShown rest

/-- The trees of some entries can be shown. -/
def EntriesShown : List (String × Tree) → Prop
  | [] => True
  | (_, tree) :: rest => tree.IsShown ∧ EntriesShown rest

end

mutual

/-- A tree in which nothing is undefined and nothing is a function. -/
def Tree.IsData : Tree → Prop
  | .undefined | .function _ => False
  | .list items => AllData items
  | .map entries => EntriesData entries
  | _ => True

/-- All of some trees are data. -/
def AllData : List Tree → Prop
  | [] => True
  | tree :: rest => tree.IsData ∧ AllData rest

/-- The trees of some entries are data. -/
def EntriesData : List (String × Tree) → Prop
  | [] => True
  | (_, tree) :: rest => tree.IsData ∧ EntriesData rest

end

mutual

/-- The tree with `null` for all that is undefined and with its text for every function. -/
def Tree.shown : Tree → Tree
  | .undefined => .null
  | .function label => .string (Tree.function label).literal
  | .list items => .list (shownItems items)
  | .map entries => .map (shownEntries entries)
  | tree => tree

/-- Some trees as documents show them. -/
def shownItems : List Tree → List Tree
  | [] => []
  | tree :: rest => tree.shown :: shownItems rest

/-- Some entries with their trees as documents show them. -/
def shownEntries : List (String × Tree) → List (String × Tree)
  | [] => []
  | (key, tree) :: rest => (key, tree.shown) :: shownEntries rest

end

mutual

/-- How many lists and maps are in each other at the deepest place of a tree. -/
def Tree.depth : Tree → Nat
  | .list items => treesDepth items + 1
  | .map entries => treeEntriesDepth entries + 1
  | _ => 0

/-- The greatest depth of some trees. -/
def treesDepth : List Tree → Nat
  | [] => 0
  | tree :: rest => max tree.depth (treesDepth rest)

/-- The greatest depth of the trees of some entries. -/
def treeEntriesDepth : List (String × Tree) → Nat
  | [] => 0
  | (_, tree) :: rest => max tree.depth (treeEntriesDepth rest)

end

mutual

/-- Data is shown as it is. -/
theorem Tree.IsData.shown_eq : ∀ {tree : Tree}, tree.IsData → tree.shown = tree
  | .null, _ | .boolean _, _ | .number _, _ | .string _, _ | .date _ _, _ => rfl
  | .list _, isData => congrArg Tree.list (AllData.shownItems_eq isData)
  | .map _, isData => congrArg Tree.map (EntriesData.shownEntries_eq isData)

theorem AllData.shownItems_eq : ∀ {trees : List Tree}, AllData trees → shownItems trees = trees
  | [], _ => rfl
  | _ :: _, ⟨isData, areData⟩ => by
    rw [shownItems, isData.shown_eq, areData.shownItems_eq]

theorem EntriesData.shownEntries_eq : ∀ {trees : List (String × Tree)}, EntriesData trees →
    shownEntries trees = trees
  | [], _ => rfl
  | (_, _) :: _, ⟨isData, areData⟩ => by
    rw [shownEntries, isData.shown_eq, areData.shownEntries_eq]

end

/-! ### Documents of trees -/

namespace Json

theorem ofTrees_eq (before : List Json) (trees : List Tree) :
    ofTrees before trees = before.reverse ++ trees.map ofTree := by
  induction trees generalizing before with
  | nil => rw [ofTrees, List.map_nil, List.append_nil]
  | cons tree rest inductionHypothesis =>
    rw [ofTrees, inductionHypothesis, List.reverse_cons, List.append_assoc, List.map_cons,
      List.singleton_append]

theorem ofEntries_eq (before : List (String × Json)) (trees : List (String × Tree)) :
    ofEntries before trees =
      before.reverse ++ trees.map fun entry => (entry.1, ofTree entry.2) := by
  induction trees generalizing before with
  | nil => rw [ofEntries, List.map_nil, List.append_nil]
  | cons tree rest inductionHypothesis =>
    rw [ofEntries, inductionHypothesis, List.reverse_cons, List.append_assoc, List.map_cons,
      List.singleton_append]

mutual

/-- The document of a tree is as deep as the tree. -/
theorem depth_ofTree : ∀ tree : Tree, (ofTree tree).depth = tree.depth
  | .undefined | .null | .boolean _ | .string _ | .function _ | .date _ _
  | .number (.integer _) => rfl
  | .number (.float _) => by
    rw [ofTree, ofNumber]
    split <;> rfl
  | .list items => by
    rw [ofTree, ofTrees_eq, List.reverse_nil, List.nil_append, depth, Tree.depth,
      itemsDepth_ofTree items]
  | .map entries => by
    rw [ofTree, ofEntries_eq, List.reverse_nil, List.nil_append, depth, Tree.depth,
      entriesDepth_ofTree entries]

theorem itemsDepth_ofTree : ∀ trees : List Tree, itemsDepth (trees.map ofTree) = treesDepth trees
  | [] => rfl
  | tree :: rest => by
    rw [List.map_cons, itemsDepth, treesDepth, depth_ofTree tree, itemsDepth_ofTree rest]

theorem entriesDepth_ofTree : ∀ trees : List (String × Tree),
    entriesDepth (trees.map fun entry => (entry.1, ofTree entry.2)) = treeEntriesDepth trees
  | [] => rfl
  | (key, tree) :: rest => by
    rw [List.map_cons, entriesDepth, treeEntriesDepth, depth_ofTree tree, entriesDepth_ofTree rest]

end

end Json

variable {heap : Heap}

mutual

/-- What a value shows is a document that can be read. Its maps have their keys in order since the
value itself has them so. -/
theorem Unfolds.isPlain {value : Value} {tree : Tree} :
    Unfolds heap value tree → tree.IsShown → (Json.ofTree tree).IsPlain
  | .undefined, _ | .null, _ | .boolean _, _ | .string _, _ | .function _, _
  | .number (.integer _), _ => trivial
  | .number (.float _), isShown | .date _, isShown => False.elim isShown
  | .list _ each, isShown => by
    rw [Json.ofTree, Json.ofTrees_eq]
    exact each.allPlain isShown
  | @Unfolds.map _ _ table trees _ each, isShown => by
    rw [Json.ofTree, Json.ofEntries_eq]
    refine ⟨?_, each.entriesPlain isShown⟩
    rw [List.reverse_nil, List.nil_append, keysAscending_iff, List.map_map]
    exact keysAscending_iff.mp each.ascending

theorem AllUnfold.allPlain {values : List Value} {trees : List Tree} :
    AllUnfold heap values trees → AllShown trees → Json.AllPlain (trees.map Json.ofTree)
  | .nil, _ => trivial
  | .cons first rest, isShown => ⟨first.isPlain isShown.1, rest.allPlain isShown.2⟩

theorem EntriesUnfold.entriesPlain {entries : List (String × Value)}
    {trees : List (String × Tree)} : EntriesUnfold heap entries trees → EntriesShown trees →
      Json.EntriesPlain (trees.map fun entry => (entry.1, Json.ofTree entry.2))
  | .nil, _ => trivial
  | .cons first rest, isShown => ⟨first.isPlain isShown.1, rest.entriesPlain isShown.2⟩

end

/-! ### Values of documents -/

mutual

/-- The tree that a document shows. -/
def Json.tree : Json → Tree
  | .null => .null
  | .boolean value => .boolean value
  | .number value => .number value
  | .string value => .string value
  | .list items => .list (itemTrees items)
  | .map entries => .map (entryTrees entries)

/-- The trees that some documents show. -/
def itemTrees : List Json → List Tree
  | [] => []
  | item :: rest => item.tree :: itemTrees rest

/-- Some entries with the trees that their documents show. -/
def entryTrees : List (String × Json) → List (String × Tree)
  | [] => []
  | (key, value) :: rest => (key, value.tree) :: entryTrees rest

end

mutual

theorem Tree.IsShown.tree_ofTree : ∀ {tree : Tree}, tree.IsShown →
    (Json.ofTree tree).tree = tree.shown
  | .undefined, _ | .null, _ | .boolean _, _ | .string _, _ | .number (.integer _), _ => rfl
  | .function _, _ => by rw [Json.ofTree, Json.tree, Tree.shown]
  | .number (.float _), isShown | .date _ _, isShown => False.elim isShown
  | .list items, isShown => by
    rw [Json.ofTree, Json.ofTrees_eq]
    exact congrArg Tree.list (AllShown.itemTrees_eq isShown)
  | .map entries, isShown => by
    rw [Json.ofTree, Json.ofEntries_eq]
    exact congrArg Tree.map (EntriesShown.entryTrees_eq isShown)

theorem AllShown.itemTrees_eq : ∀ {trees : List Tree}, AllShown trees →
    itemTrees (trees.map Json.ofTree) = shownItems trees
  | [], _ => rfl
  | _ :: _, ⟨isShown, areShown⟩ => by
    rw [List.map_cons, itemTrees, shownItems, isShown.tree_ofTree, areShown.itemTrees_eq]

theorem EntriesShown.entryTrees_eq : ∀ {trees : List (String × Tree)}, EntriesShown trees →
    entryTrees (trees.map fun entry => (entry.1, Json.ofTree entry.2)) = shownEntries trees
  | [], _ => rfl
  | (_, _) :: _, ⟨isShown, areShown⟩ => by
    rw [List.map_cons, entryTrees, shownEntries, isShown.tree_ofTree, areShown.entryTrees_eq]

end

theorem keysAscending_entryTrees (entries : List (String × Json)) :
    KeysAscending (entryTrees entries) ↔ KeysAscending entries := by
  have keys : (entryTrees entries).map Prod.fst = entries.map Prod.fst := by
    induction entries with
    | nil => rfl
    | cons entry rest inductionHypothesis => exact congrArg (List.cons entry.1) inductionHypothesis
  rw [keysAscending_iff, keysAscending_iff, keys]

mutual

/-- Building a document adds cells for its lists and maps and yields a value with its tree. -/
theorem Json.IsPlain.builds {Closure : Type} : ∀ {document : Json}, document.IsPlain →
    ∀ heap : Heap, (document.build : Action Closure Value).Builds heap fun new value =>
      Unfolds new value document.tree
  | .null, _, _ => .done .null
  | .boolean _, _, _ => .done (.boolean _)
  | .number _, _, _ => .done (.number _)
  | .string _, _, _ => .done (.string _)
  | .list items, isPlain, heap => by
    rw [Json.build]
    exact (Json.AllPlain.buildsItems isPlain heap #[] [] .nil).bind fun _ _ _ each => .newList each
  | .map entries, isPlain, heap => by
    rw [Json.build]
    exact (Json.EntriesPlain.buildsEntries isPlain.2 heap Table.empty []
      ((keysAscending_entryTrees entries).mpr isPlain.1) .nil).bind fun _ _ _ each => .newMap each

theorem Json.AllPlain.buildsItems {Closure : Type} : ∀ {items : List Json}, Json.AllPlain items →
    ∀ (heap : Heap) (before : Array Value) (trees : List Tree),
      AllUnfold heap before.toList trees →
        (Json.buildItems before items : Action Closure (Array Value)).Builds heap
          fun new values => AllUnfold new values.toList (trees ++ itemTrees items)
  | [], _, heap, before, trees, each => by
    rw [Json.buildItems, itemTrees, List.append_nil]
    exact .done each
  | item :: rest, ⟨isPlain, arePlain⟩, heap, before, trees, each => by
    rw [Json.buildItems]
    refine (isPlain.builds heap).bind fun middle value extension unfolds => ?_
    have pushed : AllUnfold middle (before.push value).toList (trees ++ [item.tree]) := by
      rw [Array.toList_push]
      exact (each.mono extension).append (.cons unfolds .nil)
    rw [itemTrees, ← List.singleton_append, ← List.append_assoc]
    exact arePlain.buildsItems middle _ _ pushed

theorem Json.EntriesPlain.buildsEntries {Closure : Type} : ∀ {entries : List (String × Json)},
    Json.EntriesPlain entries → ∀ (heap : Heap) (table : Table Value)
      (trees : List (String × Tree)), KeysAscending (trees ++ entryTrees entries) →
        EntriesUnfold heap table.entries trees →
          (Json.buildEntries table entries : Action Closure (Table Value)).Builds heap
            fun new final => EntriesUnfold new final.entries (trees ++ entryTrees entries)
  | [], _, heap, table, trees, _, each => by
    rw [Json.buildEntries, entryTrees, List.append_nil]
    exact .done each
  | (key, value) :: rest, ⟨isPlain, arePlain⟩, heap, table, trees, ascending, each => by
    rw [Json.buildEntries]
    refine (isPlain.builds heap).bind fun middle built extension unfolds => ?_
    have inserted := (each.mono extension).insert unfolds ascending
    rw [entryTrees, ← List.singleton_append, ← List.append_assoc] at ascending ⊢
    exact arePlain.buildsEntries middle _ _ ascending inserted

end

/-! ### Libraries -/

namespace Json.Library

/-- In both layouts a library reads from the text of a document what has been written, as long as
its numbers are integers and at most 127 lists and maps are in each other. -/
def Inverts (library : Library) : Prop :=
  ∀ (layout : Layout) (document : Json), document.IsPlain → document.depth ≤ 127 →
    ∃ text, library.write layout document = .ok text ∧ library.read text = .ok document

/-- The library that programs run with is one of these. -/
theorem usual_inverts : usual.Inverts := by
  intro layout document isPlain shallow
  refine ⟨document.text layout, rfl, ?_⟩
  simp only [usual, read?_text layout isPlain shallow]

end Json.Library

/-- With every library that reads what it has written, the text of a value as a document is read, in
both layouts, and building what has been read makes the value again, but for `null` in the place of
what is undefined and for the texts of functions in theirs. -/
theorem document_reads_back {library : Json.Library} (inverts : library.Inverts)
    {Closure : Type} {start : World Closure} {value : Value} {tree : Tree}
    (unfolds : Unfolds start.heap value tree) (isShown : tree.IsShown) (shallow : tree.depth ≤ 127)
    (layout : Layout) :
    ∃ text, library.textOf layout value start = (.value (.ok text), start) ∧
      ∀ {Other : Type} (world : World Other), ∃ result after,
        library.valueOf text world = (.value result, after) ∧
          Unfolds after.heap result tree.shown ∧
          (tree.IsData → Unfolds after.heap result tree) := by
  have same : Json.ofValue start.heap value = Json.ofTree tree :=
    congrArg Json.ofTree unfolds.ofValue_eq
  have isPlain := unfolds.isPlain isShown
  obtain ⟨text, written, read⟩ :=
    inverts layout _ isPlain ((Json.depth_ofTree tree).trans_le shallow)
  refine ⟨text, ?_, fun world => ?_⟩
  · rw [Json.Library.textOf, Action.readIf_value unfolds.hasLiteral, same, written]
    rfl
  · obtain ⟨result, new, runs, _, made⟩ := isPlain.builds world.heap world.closures
    rw [isShown.tree_ofTree] at made
    simp only [Json.Library.valueOf, read]
    exact ⟨result, ⟨new, world.closures⟩, runs, made, fun isData => isData.shown_eq ▸ made⟩

/-- A heap with a list of the least integer, of a text with a quotation mark and a control
character, of a map without data and of an empty list. -/
def shownHeap : Heap :=
  { Heap.empty with
    lists := #[#[.number (.integer Int64.minValue), .string "\"\x01", .map ⟨0⟩, .list ⟨1⟩], #[]]
    maps := #[(Table.empty.insert "" .undefined).insert "k" (.function ⟨0⟩)]
    functions := #[⟨.date, 0, "x"⟩] }

/-- The tree of the list. -/
def shownTree : Tree :=
  .list [.number (.integer Int64.minValue), .string "\"\x01",
    .map [("", .undefined), ("k", .function "x")], .list []]

/-- The list is written as a document and read from its text. -/
theorem shownTree_reads_back :
    Json.Library.usual.Inverts ∧ Unfolds shownHeap (.list ⟨0⟩) shownTree ∧ shownTree.IsShown ∧
      shownTree.depth ≤ 127 ∧
      Json.Library.usual.textOf .compact (.list ⟨0⟩) (⟨shownHeap, #[]⟩ : World Unit) =
        (.value (.ok ("[-9223372036854775808,\"\\\"\\u0001\"," ++
          "\x7b\"\":null,\"k\":\"&F\x7bx\x7d\"\x7d,[]]")), ⟨shownHeap, #[]⟩) ∧
      ∃ text,
        Json.Library.usual.textOf .indented (.list ⟨0⟩) (⟨shownHeap, #[]⟩ : World Unit) =
          (.value (.ok text), ⟨shownHeap, #[]⟩) ∧
        ∃ result after,
          Json.Library.usual.valueOf text (.empty : World Unit) = (.value result, after) ∧
          Unfolds after.heap result (.list [.number (.integer Int64.minValue), .string "\"\x01",
            .map [("", .null), ("k", .string "&F\x7bx\x7d")], .list []]) := by
  have entries : EntriesUnfold shownHeap
      ((Table.empty.insert "" .undefined).insert "k" (.function ⟨0⟩)).entries
      [("", .undefined), ("k", .function "x")] := .cons .undefined (.cons (.function ⟨0⟩) .nil)
  have unfolds : Unfolds shownHeap (.list ⟨0⟩) shownTree :=
    .list rfl (.cons (.number _) (.cons (.string _) (.cons (.map rfl entries)
      (.cons (.list rfl .nil) .nil))))
  have isShown : shownTree.IsShown :=
    ⟨trivial, trivial, ⟨trivial, trivial, trivial⟩, trivial, trivial⟩
  have shallow : shownTree.depth ≤ 127 := by decide
  have inverts := Json.Library.usual_inverts
  have start : Unfolds (⟨shownHeap, #[]⟩ : World Unit).heap (.list ⟨0⟩) shownTree := unfolds
  obtain ⟨text, written, reads⟩ := document_reads_back inverts start isShown shallow .indented
  obtain ⟨result, after, read, made, _⟩ := reads (.empty : World Unit)
  exact ⟨inverts, unfolds, isShown, shallow, by rfl, text, written, result, after, read, made⟩

end Shorthand
