/-
This file holds tables that assign values to texts.

The entries are kept in the order of their keys, by code points, and every key occurs once. A
table is therefore determined by what it assigns, and writing it out needs no sorting.
-/

namespace Shorthand

/-- The entries with one added, in its place among the keys. An entry with the same key is
replaced. -/
def insertEntry {α : Type} (key : String) (value : α) :
    List (String × α) → List (String × α)
  | [] => [(key, value)]
  | (other, kept) :: rest =>
    if key < other then (key, value) :: (other, kept) :: rest
    else if key = other then (key, value) :: rest
    else (other, kept) :: insertEntry key value rest

/-- Every key comes before all later ones. -/
abbrev KeysAscending {α : Type} (entries : List (String × α)) : Prop :=
  entries.Pairwise fun earlier later => earlier.1 < later.1

theorem mem_insertEntry_key {α : Type} {key : String} {value : α} {entries : List (String × α)}
    {entry : String × α} (member : entry ∈ insertEntry key value entries) :
    entry.1 = key ∨ entry ∈ entries := by
  induction entries with
  | nil =>
    simp only [insertEntry, List.mem_singleton] at member
    exact Or.inl (congrArg Prod.fst member)
  | cons first rest inductionHypothesis =>
    obtain ⟨other, kept⟩ := first
    simp only [insertEntry] at member
    split at member
    · rcases List.mem_cons.mp member with here | there
      · exact Or.inl (congrArg Prod.fst here)
      · exact Or.inr there
    · split at member
      · rcases List.mem_cons.mp member with here | there
        · exact Or.inl (congrArg Prod.fst here)
        · exact Or.inr (List.mem_cons_of_mem _ there)
      · rcases List.mem_cons.mp member with here | there
        · exact Or.inr (here ▸ List.mem_cons_self)
        · rcases inductionHypothesis there with same | old
          · exact Or.inl same
          · exact Or.inr (List.mem_cons_of_mem _ old)

theorem keysAscending_insertEntry {α : Type} {key : String} {value : α}
    {entries : List (String × α)} (ascending : KeysAscending entries) :
    KeysAscending (insertEntry key value entries) := by
  induction entries with
  | nil => exact List.pairwise_singleton _ _
  | cons first rest inductionHypothesis =>
    obtain ⟨other, kept⟩ := first
    obtain ⟨above, restAscending⟩ := List.pairwise_cons.mp ascending
    simp only [insertEntry]
    split
    · rename_i smaller
      refine List.pairwise_cons.mpr ⟨fun entry member => ?_, ascending⟩
      rcases List.mem_cons.mp member with here | there
      · exact here ▸ smaller
      · exact String.lt_trans smaller (above entry there)
    · rename_i notSmaller
      split
      · rename_i same
        exact List.pairwise_cons.mpr ⟨fun entry member => same ▸ above entry member,
          restAscending⟩
      · rename_i different
        refine List.pairwise_cons.mpr ⟨fun entry member => ?_,
          inductionHypothesis restAscending⟩
        rcases mem_insertEntry_key member with same | old
        · rcases Std.lt_trichotomy key other with below | equal | beyond
          · exact absurd below notSmaller
          · exact absurd equal different
          · exact same ▸ beyond
        · exact above entry old

/-- An assignment of values to texts. -/
structure Table (α : Type) where
  /-- The entries in the order of their keys. -/
  entries : List (String × α)
  ascending : KeysAscending entries

namespace Table

/-- The table that assigns nothing. -/
def empty {α : Type} : Table α := ⟨[], List.Pairwise.nil⟩

/-- The table without entries stands for any. -/
instance {α : Type} : Inhabited (Table α) := ⟨empty⟩

/-- The value assigned to a key. -/
def get? {α : Type} (table : Table α) (key : String) : Option α := table.entries.lookup key

/-- The table with a value assigned to a key. -/
def insert {α : Type} (table : Table α) (key : String) (value : α) : Table α :=
  ⟨insertEntry key value table.entries, keysAscending_insertEntry table.ascending⟩

/-- The table that results from assigning the pairs one after the other. -/
def ofList {α : Type} (pairs : List (String × α)) : Table α :=
  pairs.foldl (fun table pair => table.insert pair.1 pair.2) empty

/-- The number of keys. -/
def size {α : Type} (table : Table α) : Nat := table.entries.length

end Table

end Shorthand
